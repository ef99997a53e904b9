import AsensingDriver.Lib.Decimal
import Mathlib.Data.List.Forall2

/-! Documents written as JSON.  A `Doc` says what a text is to tell, apart from its layout and from
how its numbers are written, and `Shows` says that a reader of the text learns just that.  The rules
below build texts of arrays and objects from those of their parts.  `no_control_of_parse` is about
the texts that a reader accepts at all. -/

namespace Json

/-- What a text tells.  A figure is a value of type `α`, which a token may show only nearly. -/
inductive Doc (α : Type)
  | null
  | text (s : List Char)
  | count (n : Nat)
  | figure (x : α)
  | list (docs : List (Doc α))
  | record (fields : List (String × Doc α))

/-- The value tells what the document does, where `near` relates a figure to a token that shows
it. -/
inductive Agrees {α : Type} (near : α → List Char → Prop) : Doc α → Value → Prop
  | null : Agrees near .null .null
  | text (s : List Char) : Agrees near (.text s) (.string s)
  | count {n : Nat} {token : List Char} (h : Decimal.value token = n) :
      Agrees near (.count n) (.number token)
  | figure {x : α} {token : List Char} (h : near x token) : Agrees near (.figure x) (.number token)
  | list {docs : List (Doc α)} {values : List Value} (h : docs.Forall₂ (Agrees near) values) :
      Agrees near (.list docs) (.array values)
  | record {fields : List (String × Doc α)} {members : List (List Char × Value)}
      (hkeys : fields.map (·.1.toList) = members.map Prod.fst)
      (hvalues : (fields.map Prod.snd).Forall₂ (Agrees near) (members.map Prod.snd)) :
      Agrees near (.record fields) (.object members)

/-- The value can be read at the front of the text with any fuel that is enough for its length. -/
def Reads (text : List Char) (v : Value) : Prop := ∀ fuel, text.length ≤ fuel → Holds fuel text v

/-- A reader of the text learns what the document tells. -/
def Shows {α : Type} (near : α → List Char → Prop) (text : List Char) (doc : Doc α) : Prop :=
  ∃ v, Reads text v ∧ Agrees near doc v

section Rules

variable {α β : Type} {near : α → List Char → Prop}

/-! ### Leaves -/

theorem Reads.of_succ {text : List Char} {v : Value} (hne : text ≠ [])
    (h : ∀ fuel, text.length ≤ fuel + 1 → Holds (fuel + 1) text v) : Reads text v := by
  intro fuel hfuel
  cases fuel with
  | zero => exact absurd (List.length_eq_zero_iff.mp (Nat.le_zero.mp hfuel)) hne
  | succ fuel => exact h fuel hfuel

theorem shows_null : Shows near ['n', 'u', 'l', 'l'] (.null : Doc α) :=
  ⟨.null, .of_succ (by simp) fun _ _ => ⟨⟨'n', _, rfl, rfl, by decide⟩, fun _ _ => rfl⟩, .null⟩

theorem shows_text {text s : List Char} (h : Denotes text s) :
    Shows near (quote text) (.text s : Doc α) :=
  ⟨.string s, .of_succ (by simp [quote]) fun _ _ => holds_string h, .text s⟩

theorem reads_number {token : List Char} (h : isNumber token = true) :
    Reads token (.number token) := by
  refine .of_succ ?_ fun _ _ => holds_number h
  rintro rfl
  cases h

theorem shows_count (n : Nat) : Shows near (Nat.toDigits 10 n) (.count n : Doc α) :=
  ⟨.number _, reads_number (Decimal.isNumber_toDigits n), .count (Decimal.value_toDigits n)⟩

theorem shows_figure {x : α} {token : List Char} (h : isNumber token = true) (hx : near x token) :
    Shows near token (.figure x) :=
  ⟨.number token, reads_number h, .figure hx⟩

/-! ### Arrays and objects -/

theorem infix_separated (before after : List Char) {text : List Char} {texts : List (List Char)}
    (h : text ∈ texts) : text <:+: separated before after texts := by
  have hcontinued {texts : List (List Char)} (h : text ∈ texts) :
      text <:+: continued before after texts := by
    induction texts with
    | nil => cases h
    | cons t texts ih =>
      rcases List.mem_cons.mp h with rfl | h
      · exact ⟨',' :: (after ++ before), continued before after texts, by simp [continued]⟩
      · obtain ⟨front, back, heq⟩ := ih h
        exact ⟨',' :: (after ++ (before ++ (t ++ front))), back, by simp [continued, ← heq]⟩
  cases texts with
  | nil => cases h
  | cons t texts =>
    rcases List.mem_cons.mp h with rfl | h
    · exact ⟨before, continued before after texts, by simp [separated]⟩
    · obtain ⟨front, back, heq⟩ := hcontinued h
      exact ⟨before ++ (t ++ front), back, by simp [separated, ← heq]⟩

theorem length_texts_le_separated (before after : List Char) (texts : List (List Char)) :
    texts.length ≤ (separated before after texts).length + 1 := by
  cases texts with
  | nil => exact Nat.zero_le _
  | cons t texts =>
    have := length_le_continued before after texts
    simp only [separated, List.length_cons, List.length_append]
    omega

/-- A member whose value stands behind some spaces. -/
theorem entry_spaced {fuel : Nat} {text text' key gap : List Char} {v : Value} (hgap : Spaces gap)
    (hkey : Denotes text key) (hv : Holds fuel text' v) :
    Entry (member (readValue fuel)) '}' (quote text ++ ':' :: (gap ++ text')) (key, v) where
  starts := ⟨'"', _, rfl, rfl, by decide⟩
  reads rest hrest := by
    obtain ⟨tail, htail⟩ : ∃ tail, tail = text ++ '"' :: (':' :: (gap ++ (text' ++ rest))) :=
      ⟨_, rfl⟩
    have hread : readString tail.length tail = some (key, ':' :: (gap ++ (text' ++ rest))) := by
      rw [htail]
      exact readString_of_denotes hkey (by simp) _
    have hskip : skip (gap ++ (text' ++ rest)) = text' ++ rest := by
      obtain ⟨c, t, rfl, hspace, -⟩ := hv.starts
      rw [skip_spaces hgap]
      exact skip_cons hspace _
    have hcolon (t : List Char) : skip (':' :: t) = ':' :: t := skip_cons rfl t
    rw [List.append_assoc, quote_append, List.cons_append, List.append_assoc, ← htail]
    simp [member, hread, hcolon, hskip, hv.reads rest hrest]

section Containers

variable {entries : List β} {texts : β → List Char} {docs : β → Doc α}
  {before after front ws gap : List Char}

theorem shows_list (hbefore : Spaces before) (hafter : Spaces after) (hfront : Spaces front)
    (hws : Spaces ws) (h : ∀ b ∈ entries, Shows near (texts b) (docs b)) :
    Shows near ('[' :: (front ++ (separated before after (entries.map texts) ++ (ws ++ [']']))))
      (.list (entries.map docs)) := by
  have : Nonempty Value := ⟨.null⟩
  choose! value hreads hagrees using h
  refine ⟨.array (entries.map value), .of_succ (by simp) fun fuel hfuel => ?_, .list ?_⟩
  · simp only [List.length_cons, List.length_append] at hfuel
    have hentries := length_texts_le_separated before after (entries.map texts)
    rw [List.length_map] at hentries
    refine holds_array hbefore hafter hfront hws (by simp at hfuel; omega) fun b hb => ?_
    have hlength : (texts b).length ≤ (separated before after (entries.map texts)).length :=
      (infix_separated _ _ (List.mem_map_of_mem hb)).length_le
    exact hreads b hb fuel (by omega)
  · rw [List.forall₂_map_left_iff, List.forall₂_map_right_iff, List.forall₂_same]
    exact hagrees

theorem shows_record {key : β → String} (hbefore : Spaces before) (hafter : Spaces after)
    (hfront : Spaces front) (hws : Spaces ws) (hgap : Spaces gap)
    (hkey : ∀ b ∈ entries, Denotes (key b).toList (key b).toList)
    (h : ∀ b ∈ entries, Shows near (texts b) (docs b)) :
    Shows near
      ('{' :: (front ++ (separated before after
        (entries.map fun b => quote (key b).toList ++ ':' :: (gap ++ texts b)) ++ (ws ++ ['}']))))
      (.record (entries.map fun b => (key b, docs b))) := by
  have : Nonempty Value := ⟨.null⟩
  choose! value hreads hagrees using h
  refine ⟨.object (entries.map fun b => ((key b).toList, value b)),
    .of_succ (by simp) fun fuel hfuel => ?_, .record ?_ ?_⟩
  · simp only [List.length_cons, List.length_append] at hfuel
    have hentries := length_texts_le_separated before after
      (entries.map fun b => quote (key b).toList ++ ':' :: (gap ++ texts b))
    rw [List.length_map] at hentries
    refine holds_object hbefore hafter hfront hws (by simp at hfuel; omega) fun b hb => ?_
    have hmem : quote (key b).toList ++ ':' :: (gap ++ texts b) ∈
        entries.map fun b => quote (key b).toList ++ ':' :: (gap ++ texts b) :=
      List.mem_map.mpr ⟨b, hb, rfl⟩
    have hlength := (infix_separated before after hmem).length_le
    simp only [List.length_append, List.length_cons] at hlength
    exact entry_spaced hgap (hkey b hb) (hreads b hb fuel (by omega))
  · simp
  · rw [List.map_map, List.map_map, List.forall₂_map_left_iff, List.forall₂_map_right_iff,
      List.forall₂_same]
    exact hagrees

end Containers

/-! ### Whole texts -/

theorem parse_of_reads {text ws : List Char} {v : Value} (h : Reads text v) (hws : Spaces ws) :
    parse (text ++ ws) = some v := by
  have hholds := h (text ++ ws).length (by simp)
  have hskip : skip (text ++ ws) = text ++ ws := by
    obtain ⟨c, t, rfl, hspace, -⟩ := hholds.starts
    exact skip_cons hspace _
  have hrest : skip ws = [] := by
    have := skip_spaces hws []
    rwa [List.append_nil] at this
  have hstops : Stops ws := by
    have := stops_spaces hws stops_nil
    rwa [List.append_nil] at this
  rw [parse, hskip, hholds.reads ws hstops]
  simp [hrest]

end Rules

/-! ### What a reader accepts -/

/-- A character that may stand in a text. -/
def Allowed (c : Char) : Prop := 0x20 ≤ c.toNat ∨ space c = true

instance (c : Char) : Decidable (Allowed c) := by unfold Allowed; infer_instance

/-- From `text` a reader has taken allowed characters, and `rest` is left. -/
def Consumes (text rest : List Char) : Prop :=
  ∃ front, text = front ++ rest ∧ ∀ c ∈ front, Allowed c

theorem Consumes.refl (text : List Char) : Consumes text text := ⟨[], rfl, by simp⟩

theorem Consumes.cons {c : Char} {text rest : List Char} (hc : Allowed c)
    (h : Consumes text rest) : Consumes (c :: text) rest := by
  obtain ⟨front, rfl, hfront⟩ := h
  exact ⟨c :: front, rfl, by simpa using ⟨hc, hfront⟩⟩

theorem Consumes.trans {text rest rest' : List Char} (h : Consumes text rest)
    (h' : Consumes rest rest') : Consumes text rest' := by
  obtain ⟨front, rfl, hfront⟩ := h
  obtain ⟨front', rfl, hfront'⟩ := h'
  refine ⟨front ++ front', (List.append_assoc ..).symm, fun c hc => ?_⟩
  rcases List.mem_append.mp hc with hc | hc
  · exact hfront c hc
  · exact hfront' c hc

/-- A span of allowed characters. -/
theorem consumes_dropWhile {p : Char → Bool} (h : ∀ c, p c = true → Allowed c) (text : List Char) :
    Consumes text (text.dropWhile p) :=
  ⟨text.takeWhile p, List.takeWhile_append_dropWhile.symm, fun c hc =>
    h c (List.mem_takeWhile_imp hc)⟩

theorem consumes_skip (text : List Char) : Consumes text (skip text) :=
  consumes_dropWhile (fun _ hc => .inr hc) text

theorem allowed_of_le {c d : Char} (hc : 0x20 ≤ c.toNat) (h : c ≤ d) : Allowed d :=
  .inl (hc.trans (UInt32.le_iff_toNat_le.mp (Char.le_def.mp h)))

theorem allowed_of_hexDigit {c : Char} {n : Nat} (h : hexDigit? c = some n) : Allowed c := by
  unfold hexDigit? at h
  split_ifs at h with h0 ha hA
  · exact allowed_of_le (by decide) h0.1
  · exact allowed_of_le (by decide) ha.1
  · exact allowed_of_le (by decide) hA.1

theorem allowed_of_escaped {e c : Char} (h : escaped? e = some c) : Allowed e := by
  by_contra hcontrol
  have hne (d : Char) (hd : 0x20 ≤ d.toNat) : e ≠ d := by
    rintro rfl
    exact hcontrol (.inl hd)
  simp [escaped?, hne '"' (by decide), hne '\\' (by decide), hne '/' (by decide),
    hne 'b' (by decide), hne 'f' (by decide), hne 'n' (by decide), hne 'r' (by decide),
    hne 't' (by decide)] at h

theorem allowed_of_numberChar {c : Char} (h : numberChar c = true) : Allowed c := by
  simp only [numberChar, digit, Bool.or_eq_true, Bool.and_eq_true, decide_eq_true_eq,
    beq_iff_eq] at h
  rcases h with ((((h | rfl) | rfl) | rfl) | rfl) | rfl
  · exact allowed_of_le (by decide) h.1
  all_goals exact .inl (by decide)

section Readers

variable {text rest : List Char}

theorem consumes_readUnit {u : Nat} (h : readUnit text = some (u, rest)) : Consumes text rest := by
  unfold readUnit at h
  split at h
  · rename_i a b c d tail
    obtain ⟨v, hv, heq⟩ := Option.map_eq_some_iff.mp h
    simp only [unit?, Option.bind_eq_bind, Option.bind_eq_some_iff] at hv
    obtain ⟨_, ha, _, hb, _, hc, _, hd, -⟩ := hv
    rw [← (Prod.mk.inj heq).2]
    exact .cons (allowed_of_hexDigit ha) (.cons (allowed_of_hexDigit hb)
      (.cons (allowed_of_hexDigit hc) (.cons (allowed_of_hexDigit hd) (.refl tail))))
  · cases h

theorem consumes_readEscape {c : Char} (h : readEscape text = some (c, rest)) :
    Consumes text rest := by
  cases text with
  | nil => cases h
  | cons e tail =>
    rw [readEscape] at h
    split at h
    · rename_i hu
      obtain ⟨⟨u, tail'⟩, hunit, h⟩ := Option.bind_eq_some_iff.mp h
      refine .cons (.inl (by rw [hu]; decide)) ((consumes_readUnit hunit).trans ?_)
      dsimp only at h
      split at h
      · cases h
        exact .refl _
      · -- The second half of a pair.
        split at h
        · obtain ⟨⟨low, rest'⟩, hlow, h⟩ := Option.bind_eq_some_iff.mp h
          dsimp only at h
          split at h
          · rw [← (Prod.mk.inj (Option.some.inj h)).2]
            exact .cons (.inl (by decide)) (.cons (.inl (by decide)) (consumes_readUnit hlow))
          · cases h
        · cases h
    · obtain ⟨c', hc, heq⟩ := Option.map_eq_some_iff.mp h
      cases heq
      exact .cons (allowed_of_escaped hc) (.refl _)

theorem consumes_push {α : Type} {a : α} {result : Option (List α × List Char)} {as : List α}
    (h : push a result = some (as, rest)) : ∃ as', result = some (as', rest) := by
  obtain ⟨⟨as', rest'⟩, hresult, heq⟩ := Option.map_eq_some_iff.mp h
  cases heq
  exact ⟨as', hresult⟩

theorem consumes_readString {fuel : Nat} {s : List Char}
    (h : readString fuel text = some (s, rest)) : Consumes text rest := by
  induction fuel generalizing text s with
  | zero => cases h
  | succ fuel ih =>
    cases text with
    | nil => cases h
    | cons c tail =>
      rw [readString] at h
      split at h
      · rename_i hquote
        cases h
        exact .cons (.inl (by rw [hquote]; decide)) (.refl _)
      split at h
      · rename_i hslash
        obtain ⟨⟨c', tail'⟩, hescape, h⟩ := Option.bind_eq_some_iff.mp h
        obtain ⟨s', hs'⟩ := consumes_push h
        exact .cons (.inl (by rw [hslash]; decide)) ((consumes_readEscape hescape).trans (ih hs'))
      split at h
      · cases h
      · rename_i hcontrol
        obtain ⟨s', hs'⟩ := consumes_push h
        exact .cons (.inl (Nat.not_lt.mp hcontrol)) (ih hs')

theorem consumes_readNumber {token : List Char} (h : readNumber text = some (token, rest)) :
    Consumes text rest := by
  unfold readNumber at h
  dsimp only at h
  split at h
  · cases h
    exact consumes_dropWhile (fun _ => allowed_of_numberChar) text
  · cases h

section Sequences

variable {α : Type} {item : List Char → Option (α × List Char)} {close : Char}
  (hitem : ∀ {text rest a}, item text = some (a, rest) → Consumes text rest)
  (hclose : Allowed close)
include hitem hclose

theorem consumes_more {fuel : Nat} {as : List α}
    (h : more item close fuel text = some (as, rest)) : Consumes text rest := by
  induction fuel generalizing text as with
  | zero => cases h
  | succ fuel ih =>
    rw [more] at h
    refine (consumes_skip text).trans ?_
    split at h
    · cases h
    · rename_i c tail hskip
      rw [hskip]
      split at h
      · rename_i hc
        cases h
        exact .cons (hc ▸ hclose) (.refl _)
      split at h
      · rename_i hc
        obtain ⟨⟨a, tail'⟩, ha, h⟩ := Option.bind_eq_some_iff.mp h
        obtain ⟨as', has'⟩ := consumes_push h
        exact .cons (.inl (by rw [hc]; decide))
          ((consumes_skip tail).trans ((hitem ha).trans (ih has')))
      · cases h

theorem consumes_sequence {fuel : Nat} {as : List α}
    (h : sequence item close fuel text = some (as, rest)) : Consumes text rest := by
  unfold sequence at h
  refine (consumes_skip text).trans ?_
  split at h
  · cases h
  · rename_i c tail hskip
    rw [hskip]
    split at h
    · rename_i hc
      cases h
      exact .cons (hc ▸ hclose) (.refl _)
    · obtain ⟨⟨a, tail'⟩, ha, h⟩ := Option.bind_eq_some_iff.mp h
      obtain ⟨as', has'⟩ := consumes_push h
      exact (hitem ha).trans (consumes_more hitem hclose has')

end Sequences

theorem consumes_member {value : List Char → Option (Value × List Char)}
    (hvalue : ∀ {text rest v}, value text = some (v, rest) → Consumes text rest)
    {m : List Char × Value} (h : member value text = some (m, rest)) : Consumes text rest := by
  cases text with
  | nil => cases h
  | cons c tail =>
    rw [member] at h
    split at h
    · rename_i hc
      obtain ⟨⟨key, tail'⟩, hkey, h⟩ := Option.bind_eq_some_iff.mp h
      refine .cons (.inl (by rw [hc]; decide)) ((consumes_readString hkey).trans ?_)
      refine (consumes_skip tail').trans ?_
      dsimp only at h
      split at h
      · rename_i tail'' hskip
        obtain ⟨⟨v, rest'⟩, hv, h⟩ := Option.bind_eq_some_iff.mp h
        cases h
        rw [hskip]
        exact .cons (.inl (by decide)) ((consumes_skip tail'').trans (hvalue hv))
      · cases h
    · cases h

/-- A word of letters at the front of a text. -/
theorem consumes_word {word : List Char} (hword : word.all (fun c => decide (Allowed c)) = true)
    (h : word.isPrefixOf text = true) : Consumes text (text.drop word.length) := by
  obtain ⟨tail, rfl⟩ := List.isPrefixOf_iff_prefix.mp h
  exact ⟨word, by simp, fun c hc => of_decide_eq_true (List.all_eq_true.mp hword c hc)⟩

theorem consumes_readValue {fuel : Nat} {v : Value} (h : readValue fuel text = some (v, rest)) :
    Consumes text rest := by
  induction fuel generalizing text rest v with
  | zero => cases h
  | succ fuel ih =>
    cases text with
    | nil => cases h
    | cons c tail =>
      rw [readValue] at h
      split at h
      · rename_i hc
        obtain ⟨_, hread, heq⟩ := Option.map_eq_some_iff.mp h
        cases heq
        exact .cons (.inl (by rw [hc]; decide)) (consumes_readString hread)
      split at h
      · rename_i hc
        obtain ⟨_, hread, heq⟩ := Option.map_eq_some_iff.mp h
        cases heq
        exact .cons (.inl (by rw [hc]; decide))
          (consumes_sequence ih (.inl (by decide)) hread)
      split at h
      · rename_i hc
        obtain ⟨_, hread, heq⟩ := Option.map_eq_some_iff.mp h
        cases heq
        exact .cons (.inl (by rw [hc]; decide))
          (consumes_sequence (consumes_member ih) (.inl (by decide)) hread)
      split at h
      · rename_i hword
        cases h
        exact consumes_word rfl hword
      split at h
      · rename_i hword
        cases h
        exact consumes_word rfl hword
      split at h
      · rename_i hword
        cases h
        exact consumes_word rfl hword
      · obtain ⟨_, hread, heq⟩ := Option.map_eq_some_iff.mp h
        cases heq
        exact consumes_readNumber hread

end Readers

/-- A text that is accepted has no control characters but those between its tokens. -/
theorem no_control_of_parse {text : List Char} {v : Value} (h : parse text = some v) :
    ∀ c ∈ text, Allowed c := by
  obtain ⟨⟨v', rest⟩, hread, h⟩ := Option.bind_eq_some_iff.mp h
  dsimp only at h
  split at h
  · rename_i hrest
    obtain ⟨front, hfront, hallowed⟩ := (consumes_skip text).trans
      ((consumes_readValue hread).trans (hrest ▸ consumes_skip rest))
    rw [List.append_nil] at hfront
    rw [hfront]
    exact hallowed
  · cases h

end Json
