import AsensingDriver.Lib.Json
import Mathlib.Data.List.TakeWhile

/-! JSON texts that are cut off.  A reader of an object looks at nothing behind the closing brace,
so that what it reads in the front part of a text is what it reads in the whole text
(`parse_front`).  `utf8` is the encoding of a text, and a front part of it that is the encoding of
some text is that of a front part (`prefix_of_utf8`). -/

namespace Json

/-! ### Encoding -/

/-- The bytes of a text. -/
def utf8 (text : List Char) : List UInt8 := text.flatMap String.utf8EncodeChar

/-- The first character is determined by the first bytes. -/
theorem utf8EncodeChar_inj {c d : Char} {bs bs' : List UInt8}
    (h : String.utf8EncodeChar c ++ bs = String.utf8EncodeChar d ++ bs') : c = d := by
  have hdecode (c : Char) (bs : List UInt8) :
      (String.utf8EncodeChar c ++ bs).toByteArray.utf8DecodeChar? 0 = some c := by
    rw [List.toByteArray_append]
    exact ByteArray.utf8DecodeChar?_utf8EncodeChar_append
  have hc := hdecode c bs
  rw [h, hdecode d bs'] at hc
  exact (Option.some.inj hc).symm

theorem prefix_of_utf8 {t text : List Char} (h : utf8 t <+: utf8 text) : t <+: text := by
  induction t generalizing text with
  | nil => exact List.nil_prefix
  | cons c t ih =>
    obtain ⟨bs, hbs⟩ := h
    cases text with
    | nil => simp [utf8, String.utf8EncodeChar_ne_nil] at hbs
    | cons d text =>
      simp only [utf8, List.flatMap_cons, List.append_assoc] at hbs
      obtain rfl := utf8EncodeChar_inj hbs
      have hrest := ih ⟨bs, List.append_cancel_left hbs⟩
      exact (List.prefix_cons_inj c).mpr hrest

/-! ### Readers -/

section Readers

variable {text rest : List Char} (back : List Char)

theorem skip_append (h : skip text ≠ []) : skip (text ++ back) = skip text ++ back := by
  unfold skip at h ⊢
  rw [List.dropWhile_append, if_neg (by simpa using h)]

theorem readUnit_append {u : Nat} (h : readUnit text = some (u, rest)) :
    readUnit (text ++ back) = some (u, rest ++ back) := by
  unfold readUnit at h
  split at h
  · rename_i a b c d tail
    obtain ⟨v, hv, heq⟩ := Option.map_eq_some_iff.mp h
    obtain ⟨rfl, rfl⟩ := Prod.mk.inj heq
    simp [readUnit, hv]
  · cases h

theorem readEscape_append {c : Char} (h : readEscape text = some (c, rest)) :
    readEscape (text ++ back) = some (c, rest ++ back) := by
  cases text with
  | nil => cases h
  | cons e tail =>
    rw [readEscape] at h
    rw [List.cons_append, readEscape]
    split at h
    · rename_i hu
      obtain ⟨⟨u, tail'⟩, hunit, h⟩ := Option.bind_eq_some_iff.mp h
      rw [if_pos hu, readUnit_append back hunit, Option.bind_eq_bind, Option.bind_some]
      dsimp only at h ⊢
      split at h
      · rename_i hscalar
        rw [if_pos hscalar]
        obtain ⟨hc, hrest⟩ := Prod.mk.inj (Option.some.inj h)
        rw [← hc, ← hrest]
        rfl
      · rename_i hscalar
        rw [if_neg hscalar]
        split at h
        · rename_i tail''
          obtain ⟨⟨low, rest'⟩, hlow, h⟩ := Option.bind_eq_some_iff.mp h
          simp only [List.cons_append, readUnit_append back hlow, Option.bind_some]
          dsimp only at h
          split at h
          · rename_i hrange
            rw [if_pos hrange]
            obtain ⟨hc, hrest⟩ := Prod.mk.inj (Option.some.inj h)
            rw [← hc, ← hrest]
            rfl
          · cases h
        · cases h
    · rename_i hu
      obtain ⟨c', hc, heq⟩ := Option.map_eq_some_iff.mp h
      obtain ⟨rfl, rfl⟩ := Prod.mk.inj heq
      rw [if_neg hu, hc]
      rfl

theorem push_append {α : Type} {a : α} {as : List α} {result result' : Option (List α × List Char)}
    (h : push a result = some (as, rest))
    (hresult : ∀ as, result = some (as, rest) → result' = some (as, rest ++ back)) :
    push a result' = some (as, rest ++ back) := by
  obtain ⟨⟨as', rest'⟩, hread, heq⟩ := Option.map_eq_some_iff.mp h
  obtain ⟨rfl, rfl⟩ := Prod.mk.inj heq
  rw [push, hresult as' hread]
  rfl

theorem readString_append {fuel fuel' : Nat} {s : List Char}
    (h : readString fuel text = some (s, rest)) (hfuel : fuel ≤ fuel') :
    readString fuel' (text ++ back) = some (s, rest ++ back) := by
  induction fuel generalizing text s fuel' with
  | zero => cases h
  | succ fuel ih =>
    obtain ⟨fuel', rfl⟩ : ∃ n, fuel' = n + 1 := ⟨fuel' - 1, by omega⟩
    have hle := Nat.le_of_succ_le_succ hfuel
    cases text with
    | nil => cases h
    | cons c tail =>
      rw [readString] at h
      rw [List.cons_append, readString]
      split at h
      · rename_i hquote
        rw [if_pos hquote]
        obtain ⟨rfl, rfl⟩ := Prod.mk.inj (Option.some.inj h)
        rfl
      rename_i hquote
      rw [if_neg hquote]
      split at h
      · rename_i hslash
        obtain ⟨⟨c', tail'⟩, hescape, h⟩ := Option.bind_eq_some_iff.mp h
        rw [if_pos hslash, readEscape_append back hescape, Option.bind_eq_bind, Option.bind_some]
        exact push_append back h fun _ h => ih h hle
      rename_i hslash
      rw [if_neg hslash]
      split at h
      · cases h
      · rename_i hcontrol
        rw [if_neg hcontrol]
        exact push_append back h fun _ h => ih h hle

/-- A number that is followed by something else ends there. -/
theorem readNumber_append {token : List Char} (h : readNumber text = some (token, rest))
    (hrest : rest ≠ []) : readNumber (text ++ back) = some (token, rest ++ back) := by
  unfold readNumber at h ⊢
  dsimp only at h ⊢
  split at h
  · rename_i hnumber
    obtain ⟨rfl, rfl⟩ := Prod.mk.inj (Option.some.inj h)
    have htake : (text ++ back).takeWhile numberChar = text.takeWhile numberChar := by
      rw [List.takeWhile_append, if_neg]
      intro hlength
      apply hrest
      have hall := congrArg List.length
        (List.takeWhile_append_dropWhile (p := numberChar) (l := text))
      rw [List.length_append] at hall
      exact List.length_eq_zero_iff.mp (by omega)
    have hdrop : (text ++ back).dropWhile numberChar = text.dropWhile numberChar ++ back := by
      rw [List.dropWhile_append, if_neg (by simpa using hrest)]
    rw [htake, hdrop, if_pos hnumber]
  · cases h

section Sequences

variable {α : Type} {item item' : List Char → Option (α × List Char)} {close : Char}
  (hnil : item [] = none)
  (hitem : ∀ {text rest a}, item text = some (a, rest) → rest ≠ [] →
    item' (text ++ back) = some (a, rest ++ back))
include hnil hitem

theorem more_append {fuel fuel' : Nat} {as : List α}
    (h : more item close fuel text = some (as, rest)) (hfuel : fuel ≤ fuel') :
    text ≠ [] ∧ more item' close fuel' (text ++ back) = some (as, rest ++ back) := by
  induction fuel generalizing text as fuel' with
  | zero => cases h
  | succ fuel ih =>
    obtain ⟨fuel', rfl⟩ : ∃ n, fuel' = n + 1 := ⟨fuel' - 1, by omega⟩
    have hle := Nat.le_of_succ_le_succ hfuel
    rw [more] at h
    split at h
    · cases h
    · rename_i c tail hskip
      have hne : skip text ≠ [] := by simp [hskip]
      refine ⟨?_, ?_⟩
      · rintro rfl
        cases hskip
      rw [more, skip_append back hne, hskip, List.cons_append]
      dsimp only
      split at h
      · rename_i hc
        rw [if_pos hc]
        obtain ⟨rfl, rfl⟩ := Prod.mk.inj (Option.some.inj h)
        rfl
      rename_i hc
      rw [if_neg hc]
      split at h
      · rename_i hcomma
        obtain ⟨⟨a, tail'⟩, ha, h⟩ := Option.bind_eq_some_iff.mp h
        have hne' : skip tail ≠ [] := by
          intro hempty
          rw [hempty, hnil] at ha
          cases ha
        -- The next entry is followed by a comma or by the closing character.
        obtain ⟨as', has'⟩ : ∃ as', more item close fuel tail' = some (as', rest) := by
          obtain ⟨⟨as', rest'⟩, hread, heq⟩ := Option.map_eq_some_iff.mp h
          exact ⟨as', hread.trans (by rw [(Prod.mk.inj heq).2])⟩
        rw [if_pos hcomma, skip_append back hne', hitem ha (ih has' hle).1, Option.bind_eq_bind,
          Option.bind_some]
        exact push_append back h fun _ h => (ih h hle).2
      · cases h

theorem sequence_append {fuel fuel' : Nat} {as : List α}
    (h : sequence item close fuel text = some (as, rest)) (hfuel : fuel ≤ fuel') :
    sequence item' close fuel' (text ++ back) = some (as, rest ++ back) := by
  unfold sequence at h ⊢
  split at h
  · cases h
  · rename_i c tail hskip
    have hne : skip text ≠ [] := by simp [hskip]
    rw [skip_append back hne, hskip, List.cons_append]
    dsimp only
    split at h
    · rename_i hc
      rw [if_pos hc]
      obtain ⟨rfl, rfl⟩ := Prod.mk.inj (Option.some.inj h)
      rfl
    · rename_i hc
      obtain ⟨⟨a, tail'⟩, ha, h⟩ := Option.bind_eq_some_iff.mp h
      obtain ⟨as', has'⟩ : ∃ as', more item close fuel tail' = some (as', rest) := by
        obtain ⟨⟨as', rest'⟩, hread, heq⟩ := Option.map_eq_some_iff.mp h
        exact ⟨as', hread.trans (by rw [(Prod.mk.inj heq).2])⟩
      have hitem' := hitem ha (more_append back hnil hitem has' hfuel).1
      rw [List.cons_append] at hitem'
      rw [if_neg hc, hitem', Option.bind_eq_bind, Option.bind_some]
      exact push_append back h fun _ h => (more_append back hnil hitem h hfuel).2

end Sequences

theorem member_append {value value' : List Char → Option (Value × List Char)}
    (hnil : value [] = none)
    (hvalue : ∀ {text rest v}, value text = some (v, rest) → rest ≠ [] →
      value' (text ++ back) = some (v, rest ++ back))
    {m : List Char × Value} (h : member value text = some (m, rest)) (hrest : rest ≠ []) :
    member value' (text ++ back) = some (m, rest ++ back) := by
  cases text with
  | nil => cases h
  | cons c tail =>
    rw [member] at h
    rw [List.cons_append, member]
    split at h
    · rename_i hc
      obtain ⟨⟨key, tail'⟩, hkey, h⟩ := Option.bind_eq_some_iff.mp h
      have hkey' := readString_append back hkey
        (show tail.length ≤ (tail ++ back).length by simp)
      rw [if_pos hc, hkey', Option.bind_eq_bind, Option.bind_some]
      dsimp only at h ⊢
      split at h
      · rename_i tail'' hskip
        obtain ⟨⟨v, rest'⟩, hv, h⟩ := Option.bind_eq_some_iff.mp h
        obtain ⟨rfl, rfl⟩ := Prod.mk.inj (Option.some.inj h)
        have hne : skip tail' ≠ [] := by simp [hskip]
        have hne' : skip tail'' ≠ [] := by
          intro hempty
          rw [hempty, hnil] at hv
          cases hv
        have hread := hvalue hv hrest
        rw [← skip_append back hne'] at hread
        rw [skip_append back hne, hskip, List.cons_append]
        simp [hread]
      · cases h
    · cases h

theorem head_of_word {c w : Char} {word tail : List Char}
    (h : (w :: word).isPrefixOf (c :: tail) = true) : c = w := by
  rw [List.isPrefixOf_iff_prefix, List.cons_prefix_cons] at h
  exact h.1.symm

theorem not_word {c d w : Char} {word : List Char} (hne : d ≠ w) (hc : c = d)
    (tail : List Char) : ¬(w :: word).isPrefixOf (c :: tail) = true := by
  intro h
  exact hne (hc.symm.trans (head_of_word h))

theorem word_append {c w : Char} {word tail : List Char}
    (h : (w :: word).isPrefixOf (c :: tail) = true) :
    (w :: word).isPrefixOf (c :: (tail ++ back)) = true ∧
      (tail ++ back).drop word.length = tail.drop word.length ++ back := by
  rw [List.isPrefixOf_iff_prefix, List.cons_prefix_cons] at h
  obtain ⟨rfl, tail', rfl⟩ := h
  constructor
  · rw [List.isPrefixOf_iff_prefix, List.cons_prefix_cons, List.append_assoc]
    exact ⟨rfl, List.prefix_append _ _⟩
  · simp

/-- What is read becomes a value, whatever is left behind it. -/
theorem map_append {α : Type} {f : α → Value} {v : Value} {result result' : Option (α × List Char)}
    (h : result.map (Prod.map f id) = some (v, rest))
    (hresult : ∀ a, result = some (a, rest) → result' = some (a, rest ++ back)) :
    result'.map (Prod.map f id) = some (v, rest ++ back) := by
  obtain ⟨⟨a, rest'⟩, hread, heq⟩ := Option.map_eq_some_iff.mp h
  obtain ⟨rfl, rfl⟩ := Prod.mk.inj heq
  rw [hresult a hread]
  rfl

/-- Behind an object, and behind any value that something else follows, a reader has not looked at
what comes later. -/
theorem readValue_append {fuel fuel' : Nat} {v : Value}
    (h : readValue fuel text = some (v, rest)) (hfuel : fuel ≤ fuel')
    (hend : rest ≠ [] ∨ text.head? = some '{') :
    readValue fuel' (text ++ back) = some (v, rest ++ back) := by
  induction fuel generalizing text rest v fuel' with
  | zero => cases h
  | succ fuel ih =>
    obtain ⟨fuel', rfl⟩ : ∃ n, fuel' = n + 1 := ⟨fuel' - 1, by omega⟩
    have hle := Nat.le_of_succ_le_succ hfuel
    have hnil : readValue fuel [] = none := by cases fuel <;> rfl
    have hvalue {text rest v} (h : readValue fuel text = some (v, rest)) (hrest : rest ≠ []) :
        readValue fuel' (text ++ back) = some (v, rest ++ back) := ih h hle (.inl hrest)
    cases text with
    | nil => cases h
    | cons c tail =>
      rw [readValue] at h
      rw [List.cons_append, readValue]
      split at h
      · rename_i hc
        rw [if_pos hc]
        exact map_append back h fun _ h => readString_append back h (by simp)
      rename_i hquote
      rw [if_neg hquote]
      split at h
      · rename_i hc
        rw [if_pos hc]
        exact map_append back h fun _ h => sequence_append back hnil hvalue h hle
      rename_i hbracket
      rw [if_neg hbracket]
      split at h
      · rename_i hc
        rw [if_pos hc]
        exact map_append back h fun _ h =>
          sequence_append back rfl (member_append back hnil hvalue) h hle
      rename_i hbrace
      rw [if_neg hbrace]
      have hrest : rest ≠ [] := by
        rcases hend with hrest | hhead
        · exact hrest
        · exact absurd (Option.some.inj hhead) hbrace
      by_cases htrue : ['t', 'r', 'u', 'e'].isPrefixOf (c :: tail) = true
      · rw [if_pos htrue] at h
        rw [if_pos (word_append back htrue).1, ← (Prod.mk.inj (Option.some.inj h)).1,
          ← (Prod.mk.inj (Option.some.inj h)).2]
        exact congrArg (fun t => some (Value.bool true, t)) (word_append back htrue).2
      rw [if_neg htrue] at h
      by_cases hfalse : ['f', 'a', 'l', 's', 'e'].isPrefixOf (c :: tail) = true
      · rw [if_pos hfalse] at h
        rw [if_neg (not_word (by decide) (head_of_word hfalse) _),
          if_pos (word_append back hfalse).1, ← (Prod.mk.inj (Option.some.inj h)).1,
          ← (Prod.mk.inj (Option.some.inj h)).2]
        exact congrArg (fun t => some (Value.bool false, t)) (word_append back hfalse).2
      rw [if_neg hfalse] at h
      by_cases hnull : ['n', 'u', 'l', 'l'].isPrefixOf (c :: tail) = true
      · rw [if_pos hnull] at h
        rw [if_neg (not_word (by decide) (head_of_word hnull) _),
          if_neg (not_word (by decide) (head_of_word hnull) _),
          if_pos (word_append back hnull).1, ← (Prod.mk.inj (Option.some.inj h)).1,
          ← (Prod.mk.inj (Option.some.inj h)).2]
        exact congrArg (fun t => some (Value.null, t)) (word_append back hnull).2
      rw [if_neg hnull] at h
      -- A number does not start with a letter of the three words.
      have hnumber : numberChar c = true := by
        obtain ⟨⟨token, rest'⟩, hread, -⟩ := Option.map_eq_some_iff.mp h
        by_contra hc
        rw [Bool.not_eq_true] at hc
        simp [readNumber, hc, isNumber, NumberState.accepts] at hread
      have hne (d : Char) (hd : numberChar d = false) : c ≠ d := by
        rintro rfl
        exact Bool.false_ne_true (hd.symm.trans hnumber)
      rw [if_neg (not_word (hne 't' rfl) rfl _), if_neg (not_word (hne 'f' rfl) rfl _),
        if_neg (not_word (hne 'n' rfl) rfl _)]
      exact map_append back h fun _ h => readNumber_append back h hrest

end Readers

/-- What is read in the front part of the text of an object is what is read in the whole text. -/
theorem parse_front {front back : List Char} {v v' : Value} (h : parse front = some v)
    (h' : parse (front ++ back) = some v') (hhead : (front ++ back).head? = some '{') : v = v' := by
  have hspace (text : List Char) (htext : text.head? = some '{') : skip text = text := by
    cases text with
    | nil => cases htext
    | cons c text =>
      rw [List.head?_cons, Option.some.injEq] at htext
      rw [htext]
      exact skip_cons rfl text
  have hfront : front.head? = some '{' := by
    cases front with
    | nil => cases h
    | cons c front => exact hhead
  unfold parse at h h'
  rw [hspace front hfront] at h
  rw [hspace _ hhead] at h'
  obtain ⟨⟨w, rest⟩, hread, h⟩ := Option.bind_eq_some_iff.mp h
  obtain ⟨⟨w', rest'⟩, hread', h'⟩ := Option.bind_eq_some_iff.mp h'
  have hwhole := readValue_append back hread
    (show front.length ≤ (front ++ back).length by simp) (.inr hfront)
  rw [hread'] at hwhole
  dsimp only at h h'
  split at h
  · split at h'
    · rw [← Option.some.inj h, ← Option.some.inj h']
      exact (Prod.mk.inj (Option.some.inj hwhole)).1.symm
    · cases h'
  · cases h

end Json
