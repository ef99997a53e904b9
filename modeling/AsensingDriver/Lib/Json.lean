import Mathlib.Data.List.Basic
import Mathlib.Tactic.Common

/-! JSON texts.  `Denotes` is the grammar of the text between the quotes of a string, with the
string it stands for.  `parse` reads a whole text, and the rules below say what it reads in a
string, a number, an array and an object. -/

namespace Json

/-! ### Strings -/

def hexDigit? (c : Char) : Option Nat :=
  if '0' ≤ c ∧ c ≤ '9' then some (c.toNat - '0'.toNat)
  else if 'a' ≤ c ∧ c ≤ 'f' then some (c.toNat - 'a'.toNat + 10)
  else if 'A' ≤ c ∧ c ≤ 'F' then some (c.toNat - 'A'.toNat + 10)
  else none

/-- The code unit that four hexadecimal digits name. -/
def unit? (a b c d : Char) : Option Nat := do
  let a ← hexDigit? a
  let b ← hexDigit? b
  let c ← hexDigit? c
  let d ← hexDigit? d
  return ((a * 16 + b) * 16 + c) * 16 + d

/-- The character that a backslash and `e` stand for. -/
def escaped? (e : Char) : Option Char :=
  if e = '"' ∨ e = '\\' ∨ e = '/' then some e
  else if e = 'b' then some '\x08'
  else if e = 'f' then some '\x0c'
  else if e = 'n' then some '\n'
  else if e = 'r' then some '\r'
  else if e = 't' then some '\t'
  else none

/-- A character that stands for itself in a string. -/
def Plain (c : Char) : Prop := 0x20 ≤ c.toNat ∧ c ≠ '"' ∧ c ≠ '\\'

instance (c : Char) : Decidable (Plain c) := by unfold Plain; infer_instance

/-- The text between the quotes of a string, and the string. -/
inductive Denotes : List Char → List Char → Prop
  | nil : Denotes [] []
  | plain {c text s} (hc : Plain c) (h : Denotes text s) : Denotes (c :: text) (c :: s)
  | escape {e c text s} (he : escaped? e = some c) (h : Denotes text s) :
      Denotes ('\\' :: e :: text) (c :: s)
  | unit {a b c d u text s} (hu : unit? a b c d = some u) (hscalar : u < 0xd800 ∨ 0xe000 ≤ u)
      (h : Denotes text s) : Denotes ('\\' :: 'u' :: a :: b :: c :: d :: text) (Char.ofNat u :: s)
  | pair {a b c d high a' b' c' d' low text s} (hhigh : unit? a b c d = some high)
      (hlow : unit? a' b' c' d' = some low) (hrange : 0xd800 ≤ high ∧ high < 0xdc00)
      (hrange' : 0xdc00 ≤ low ∧ low < 0xe000) (h : Denotes text s) :
      Denotes ('\\' :: 'u' :: a :: b :: c :: d :: '\\' :: 'u' :: a' :: b' :: c' :: d' :: text)
        (Char.ofNat (0x10000 + (high - 0xd800) * 0x400 + (low - 0xdc00)) :: s)

def readUnit : List Char → Option (Nat × List Char)
  | a :: b :: c :: d :: rest => (unit? a b c d).map fun u => (u, rest)
  | _ => none

/-- The character that the text after a backslash stands for. -/
def readEscape : List Char → Option (Char × List Char)
  | [] => none
  | e :: rest =>
    if e = 'u' then do
      let (u, rest) ← readUnit rest
      if u < 0xd800 ∨ 0xe000 ≤ u then return (Char.ofNat u, rest)
      match rest with
      | '\\' :: 'u' :: rest =>
        let (low, rest) ← readUnit rest
        if u < 0xdc00 ∧ 0xdc00 ≤ low ∧ low < 0xe000 then
          return (Char.ofNat (0x10000 + (u - 0xd800) * 0x400 + (low - 0xdc00)), rest)
        none
      | _ => none
    else (escaped? e).map fun c => (c, rest)

/-- A result with one more entry in front of what was read. -/
def push {α : Type} (a : α) (result : Option (List α × List Char)) : Option (List α × List Char) :=
  result.map fun (as, rest) => (a :: as, rest)

/-- The string up to its closing quote, and the text after it. -/
def readString : Nat → List Char → Option (List Char × List Char)
  | 0, _ | _, [] => none
  | fuel + 1, c :: rest =>
    if c = '"' then some ([], rest)
    else if c = '\\' then do
      let (c, rest) ← readEscape rest
      push c (readString fuel rest)
    else if c.toNat < 0x20 then none
    else push c (readString fuel rest)

section Strings

variable {fuel : Nat} {rest : List Char}

theorem readString_plain {c : Char} (hc : Plain c) :
    readString (fuel + 1) (c :: rest) = push c (readString fuel rest) := by
  obtain ⟨hcontrol, hquote, hslash⟩ := hc
  rw [readString, if_neg hquote, if_neg hslash, if_neg (Nat.not_lt.mpr hcontrol)]

theorem readString_escape {c : Char} {rest' : List Char} (h : readEscape rest = some (c, rest')) :
    readString (fuel + 1) ('\\' :: rest) = push c (readString fuel rest') := by
  simp [readString, h]

theorem readEscape_escaped {e c : Char} (he : escaped? e = some c) :
    readEscape (e :: rest) = some (c, rest) := by
  have hu : e ≠ 'u' := by
    rintro rfl
    simp [escaped?] at he
  simp [readEscape, hu, he]

theorem readEscape_unit {a b c d : Char} {u : Nat} (hu : unit? a b c d = some u)
    (hscalar : u < 0xd800 ∨ 0xe000 ≤ u) :
    readEscape ('u' :: a :: b :: c :: d :: rest) = some (Char.ofNat u, rest) := by
  simp [readEscape, readUnit, hu, hscalar]

theorem readEscape_pair {a b c d a' b' c' d' : Char} {high low : Nat}
    (hhigh : unit? a b c d = some high) (hlow : unit? a' b' c' d' = some low)
    (hrange : 0xd800 ≤ high ∧ high < 0xdc00) (hrange' : 0xdc00 ≤ low ∧ low < 0xe000) :
    readEscape ('u' :: a :: b :: c :: d :: '\\' :: 'u' :: a' :: b' :: c' :: d' :: rest) =
      some (Char.ofNat (0x10000 + (high - 0xd800) * 0x400 + (low - 0xdc00)), rest) := by
  have hscalar : ¬(high < 0xd800 ∨ 0xe000 ≤ high) := by omega
  simp [readEscape, readUnit, hhigh, hlow, hscalar, hrange.2, hrange']

theorem denotes_plain {s : List Char} (h : s.all (fun c => decide (Plain c)) = true) :
    Denotes s s := by
  induction s with
  | nil => exact .nil
  | cons c s ih =>
    rw [List.all_cons, Bool.and_eq_true, decide_eq_true_eq] at h
    exact .plain h.1 (ih h.2)

/-- Every string of the grammar is read. -/
theorem readString_of_denotes {text s : List Char} (h : Denotes text s) {fuel : Nat}
    (hfuel : text.length < fuel) (rest : List Char) :
    readString fuel (text ++ '"' :: rest) = some (s, rest) := by
  induction h generalizing fuel with
  | nil =>
    obtain ⟨n, rfl⟩ := Nat.exists_eq_add_of_lt hfuel
    rfl
  | plain hc h ih =>
    obtain ⟨n, rfl⟩ := Nat.exists_eq_add_of_lt hfuel
    rw [List.cons_append, readString_plain hc, ih (by simp only [List.length_cons]; omega)]
    rfl
  | escape he h ih =>
    obtain ⟨n, rfl⟩ := Nat.exists_eq_add_of_lt hfuel
    simp only [List.cons_append]
    rw [readString_escape (readEscape_escaped he), ih (by simp only [List.length_cons]; omega)]
    rfl
  | unit hu hscalar h ih =>
    obtain ⟨n, rfl⟩ := Nat.exists_eq_add_of_lt hfuel
    simp only [List.cons_append]
    rw [readString_escape (readEscape_unit hu hscalar),
      ih (by simp only [List.length_cons]; omega)]
    rfl
  | pair hhigh hlow hrange hrange' h ih =>
    obtain ⟨n, rfl⟩ := Nat.exists_eq_add_of_lt hfuel
    simp only [List.cons_append]
    rw [readString_escape (readEscape_pair hhigh hlow hrange hrange'),
      ih (by simp only [List.length_cons]; omega)]
    rfl

end Strings

/-! ### Numbers -/

inductive NumberState
  | start | minus | zero | int | point | frac | exponent | sign | digits

def digit (c : Char) : Bool := '0' ≤ c && c ≤ '9'

/-- The state of a reader of a number after one more character. -/
def NumberState.next : NumberState → Char → Option NumberState
  | start, c => if c = '-' then some minus else if c = '0' then some zero
      else if digit c then some int else none
  | minus, c => if c = '0' then some zero else if digit c then some int else none
  | zero, c => if c = '.' then some point else if c = 'e' ∨ c = 'E' then some exponent else none
  | int, c => if digit c then some int else if c = '.' then some point
      else if c = 'e' ∨ c = 'E' then some exponent else none
  | point, c => if digit c then some frac else none
  | frac, c => if digit c then some frac else if c = 'e' ∨ c = 'E' then some exponent else none
  | exponent, c => if c = '+' ∨ c = '-' then some sign else if digit c then some digits else none
  | sign, c | digits, c => if digit c then some digits else none

def NumberState.accepts : NumberState → Bool
  | zero | int | frac | digits => true
  | start | minus | point | exponent | sign => false

/-- The token of a number. -/
def isNumber (token : List Char) : Bool := (token.foldlM NumberState.next .start).any (·.accepts)

def numberChar (c : Char) : Bool :=
  digit c || c == '-' || c == '+' || c == '.' || c == 'e' || c == 'E'

def readNumber (text : List Char) : Option (List Char × List Char) :=
  let token := text.takeWhile numberChar
  if isNumber token then some (token, text.dropWhile numberChar) else none

/-- A text that no number extends into. -/
def Stops (rest : List Char) : Prop := ∀ c text, rest = c :: text → numberChar c = false

theorem stops_nil : Stops [] := by
  intro c text heq
  cases heq

theorem stops_cons {c : Char} {text : List Char} (h : numberChar c = false) :
    Stops (c :: text) := by
  intro c' text' heq
  rwa [← (List.cons.inj heq).1]

theorem numberChar_of_next {s s' : NumberState} {c : Char} (h : s.next c = some s') :
    numberChar c = true := by
  by_contra hc
  have hzero : c ≠ '0' := by
    rintro rfl
    exact hc rfl
  simp only [numberChar, Bool.or_eq_true, beq_iff_eq, not_or] at hc
  cases s <;> simp [NumberState.next, hc, hzero] at h

theorem numberChar_of_isNumber {token : List Char} (h : isNumber token = true) :
    ∀ c ∈ token, numberChar c = true := by
  have hrun (token : List Char) (s s' : NumberState)
      (h : token.foldlM NumberState.next s = some s') : ∀ c ∈ token, numberChar c = true := by
    induction token generalizing s with
    | nil => simp
    | cons c token ih =>
      rw [List.foldlM_cons, Option.bind_eq_bind, Option.bind_eq_some_iff] at h
      obtain ⟨t, hnext, hrest⟩ := h
      intro d hd
      rcases List.mem_cons.mp hd with rfl | hd
      · exact numberChar_of_next hnext
      · exact ih t hrest d hd
  obtain ⟨s, hs, -⟩ := (Option.any_eq_true _ _).mp h
  exact hrun token .start s hs

/-- A token is read up to a character that cannot extend it. -/
theorem readNumber_of_isNumber {token rest : List Char} (h : isNumber token = true)
    (hrest : Stops rest) : readNumber (token ++ rest) = some (token, rest) := by
  have hall := numberChar_of_isNumber h
  have hnone : rest.takeWhile numberChar = [] ∧ rest.dropWhile numberChar = rest := by
    cases rest with
    | nil => exact ⟨rfl, rfl⟩
    | cons c rest => simp [hrest c rest rfl]
  unfold readNumber
  rw [List.takeWhile_append_of_pos hall, List.dropWhile_append_of_pos hall, hnone.1, hnone.2,
    List.append_nil, if_pos h]

/-! ### Sequences -/

def space (c : Char) : Bool := c == ' ' || c == '\n' || c == '\r' || c == '\t'

def skip (text : List Char) : List Char := text.dropWhile space

section Sequences

variable {α β : Type}

/-- The entries of a sequence after the first one, up to the closing character. -/
def more (item : List Char → Option (α × List Char)) (close : Char) :
    Nat → List Char → Option (List α × List Char)
  | 0, _ => none
  | fuel + 1, text =>
    match skip text with
    | [] => none
    | c :: rest =>
      if c = close then some ([], rest)
      else if c = ',' then do
        let (a, rest) ← item (skip rest)
        push a (more item close fuel rest)
      else none

/-- The entries of a sequence after its opening character. -/
def sequence (item : List Char → Option (α × List Char)) (close : Char) (fuel : Nat)
    (text : List Char) : Option (List α × List Char) :=
  match skip text with
  | [] => none
  | c :: rest =>
    if c = close then some ([], rest)
    else do
      let (a, rest) ← item (c :: rest)
      push a (more item close fuel rest)

/-- What follows an entry: commas and the other texts, with `after` behind each comma and at the end
and `before` in front of each text. -/
def continued (before after : List Char) : List (List Char) → List Char
  | [] => after
  | text :: texts => ',' :: (after ++ (before ++ (text ++ continued before after texts)))

/-- Texts with commas between them. -/
def separated (before after : List Char) : List (List Char) → List Char
  | [] => []
  | text :: texts => before ++ (text ++ continued before after texts)

theorem length_le_continued (before after : List Char) (texts : List (List Char)) :
    texts.length ≤ (continued before after texts).length := by
  induction texts with
  | nil => exact Nat.zero_le _
  | cons text texts ih =>
    simp only [continued, List.length_cons, List.length_append]
    omega

/-- A loop that puts a comma after each text but the last one writes the texts with commas between
them. -/
theorem flatMap_zipIdx_separated {γ : Type} (text : γ → List Char) (before after : List Char)
    (entries : List γ) (k : Nat) :
    ((entries.zipIdx k).flatMap fun (b, i) =>
      before ++ text b ++ (if i + 1 < k + entries.length then [','] else []) ++ after) =
      separated before after (entries.map text) := by
  induction entries generalizing k with
  | nil => rfl
  | cons b entries ih =>
    have hlength : k + (b :: entries).length = k + 1 + entries.length := by
      rw [List.length_cons]
      omega
    rw [List.zipIdx_cons, List.flatMap_cons, hlength, ih]
    cases entries with
    | nil => simp [separated, continued]
    | cons b' entries => simp [separated, continued]

def Spaces (ws : List Char) : Prop := ∀ c ∈ ws, space c = true

theorem skip_spaces {ws : List Char} (h : Spaces ws) (rest : List Char) :
    skip (ws ++ rest) = skip rest :=
  List.dropWhile_append_of_pos h

theorem skip_cons {c : Char} (h : space c = false) (rest : List Char) :
    skip (c :: rest) = c :: rest :=
  List.dropWhile_cons_of_neg (by simp [h])

theorem stops_spaces {ws rest : List Char} (h : Spaces ws) (hrest : Stops rest) :
    Stops (ws ++ rest) := by
  cases ws with
  | nil => exact hrest
  | cons c ws =>
    apply stops_cons
    have hc := h c (by simp)
    simp only [space, Bool.or_eq_true, beq_iff_eq] at hc
    rcases hc with ((rfl | rfl) | rfl) | rfl <;> rfl

/-- The text of an entry can be read in a sequence. -/
structure Entry (item : List Char → Option (α × List Char)) (close : Char) (text : List Char)
    (value : α) : Prop where
  starts : ∃ c rest, text = c :: rest ∧ space c = false ∧ c ≠ close
  reads : ∀ rest, Stops rest → item (text ++ rest) = some (value, rest)

/-- A character that can close a sequence. -/
structure Closes (close : Char) : Prop where
  space : space close = false
  stops : numberChar close = false
  comma : close ≠ ','

variable {item : List Char → Option (α × List Char)} {close : Char} {text : β → List Char}
  {value : β → α} {before after ws : List Char} {entries : List β}

theorem Entry.skip {t : List Char} {a : α} (h : Entry item close t a) (rest : List Char) :
    skip (t ++ rest) = t ++ rest := by
  obtain ⟨c, t', rfl, hspace, -⟩ := h.starts
  exact skip_cons hspace _

theorem stops_continued (hclose : Closes close) (hafter : Spaces after) (hws : Spaces ws)
    (texts : List (List Char)) (rest : List Char) :
    Stops (continued before after texts ++ (ws ++ close :: rest)) := by
  cases texts with
  | nil => exact stops_spaces hafter (stops_spaces hws (stops_cons hclose.stops))
  | cons t texts => exact stops_cons rfl

theorem more_continued (hclose : Closes close) (hbefore : Spaces before) (hafter : Spaces after)
    (hws : Spaces ws) (hentries : ∀ b ∈ entries, Entry item close (text b) (value b))
    {fuel : Nat} (hfuel : entries.length < fuel) (rest : List Char) :
    more item close fuel (continued before after (entries.map text) ++ (ws ++ close :: rest)) =
      some (entries.map value, rest) := by
  induction entries generalizing fuel with
  | nil =>
    cases fuel with
    | zero => cases hfuel
    | succ fuel =>
      have hskip : skip (after ++ (ws ++ close :: rest)) = close :: rest := by
        rw [skip_spaces hafter, skip_spaces hws, skip_cons hclose.space]
      simp [more, continued, hskip]
  | cons b entries ih =>
    cases fuel with
    | zero => cases hfuel
    | succ fuel =>
      -- A comma, the entry `b`, and the text `tail` from which the other entries are read.
      have hb := hentries b (by simp)
      have hrest := ih (fun b hb => hentries b (by simp [hb])) (Nat.lt_of_succ_lt_succ hfuel)
      obtain ⟨tail, htail⟩ : ∃ tail, tail =
          continued before after (entries.map text) ++ (ws ++ close :: rest) := ⟨_, rfl⟩
      have hstops : Stops tail := htail ▸ stops_continued hclose hafter hws _ rest
      have hskip : skip (after ++ (before ++ (text b ++ tail))) = text b ++ tail := by
        rw [skip_spaces hafter, skip_spaces hbefore, hb.skip]
      have hcomma (t : List Char) : skip (',' :: t) = ',' :: t := skip_cons rfl t
      rw [← htail] at hrest
      simp only [List.map_cons, continued, List.cons_append, List.append_assoc, ← htail]
      rw [more, hcomma]
      simp [hclose.comma.symm, hskip, hb.reads tail hstops, hrest, push]

/-- A sequence is read entry by entry. -/
theorem sequence_separated (hclose : Closes close) (hbefore : Spaces before)
    (hafter : Spaces after) (hws : Spaces ws)
    (hentries : ∀ b ∈ entries, Entry item close (text b) (value b)) {fuel : Nat}
    (hfuel : entries.length ≤ fuel) {front : List Char} (hfront : Spaces front) (rest : List Char) :
    sequence item close fuel
        (front ++ (separated before after (entries.map text) ++ (ws ++ close :: rest))) =
      some (entries.map value, rest) := by
  unfold sequence
  rw [skip_spaces hfront]
  cases entries with
  | nil =>
    have hskip : skip (ws ++ close :: rest) = close :: rest := by
      rw [skip_spaces hws, skip_cons hclose.space]
    simp [separated, hskip]
  | cons b entries =>
    have hb := hentries b (by simp)
    obtain ⟨tail, htail⟩ : ∃ tail, tail =
        continued before after (entries.map text) ++ (ws ++ close :: rest) := ⟨_, rfl⟩
    have hmore : more item close fuel tail = some (entries.map value, rest) := by
      rw [htail]
      exact more_continued hclose hbefore hafter hws (fun b hb => hentries b (by simp [hb])) hfuel
        rest
    have hstops : Stops tail := htail ▸ stops_continued hclose hafter hws _ rest
    have hskip : skip (before ++ (text b ++ tail)) = text b ++ tail := by
      rw [skip_spaces hbefore, hb.skip]
    have hread := hb.reads tail hstops
    obtain ⟨c, t, hc, -, hne⟩ := hb.starts
    simp only [List.map_cons, separated, List.append_assoc, ← htail]
    rw [hskip]
    rw [hc, List.cons_append] at hread ⊢
    simp [hne, hread, hmore, push]

end Sequences

/-! ### Values -/

inductive Value
  | null
  | bool (b : Bool)
  | number (token : List Char)
  | string (s : List Char)
  | array (values : List Value)
  | object (members : List (List Char × Value))

/-- A member of an object, with a reader of values. -/
def member (value : List Char → Option (Value × List Char)) (text : List Char) :
    Option ((List Char × Value) × List Char) :=
  match text with
  | [] => none
  | c :: rest =>
    if c = '"' then do
      let (key, rest) ← readString rest.length rest
      match skip rest with
      | ':' :: rest =>
        let (v, rest) ← value (skip rest)
        return ((key, v), rest)
      | _ => none
    else none

/-- The value at the front of a text, and the text after it. -/
def readValue : Nat → List Char → Option (Value × List Char)
  | 0, _ | _, [] => none
  | fuel + 1, c :: rest =>
    if c = '"' then
      (readString rest.length rest).map fun (s, rest) => (.string s, rest)
    else if c = '[' then
      (sequence (readValue fuel) ']' fuel rest).map fun (vs, rest) => (.array vs, rest)
    else if c = '{' then
      (sequence (member (readValue fuel)) '}' fuel rest).map fun (ms, rest) => (.object ms, rest)
    else if ['t', 'r', 'u', 'e'].isPrefixOf (c :: rest) then some (.bool true, rest.drop 3)
    else if ['f', 'a', 'l', 's', 'e'].isPrefixOf (c :: rest) then some (.bool false, rest.drop 4)
    else if ['n', 'u', 'l', 'l'].isPrefixOf (c :: rest) then some (.null, rest.drop 3)
    else (readNumber (c :: rest)).map fun (token, rest) => (.number token, rest)

/-- The value of a whole text. -/
def parse (text : List Char) : Option Value := do
  let (v, rest) ← readValue text.length (skip text)
  if skip rest = [] then return v
  none

section Values

variable {fuel : Nat} {text s token : List Char} (rest : List Char)

/-- The text of a string. -/
def quote (text : List Char) : List Char := '"' :: (text ++ ['"'])

theorem quote_append : quote text ++ rest = '"' :: (text ++ '"' :: rest) := by simp [quote]

theorem readValue_string (h : Denotes text s) :
    readValue (fuel + 1) (quote text ++ rest) = some (.string s, rest) := by
  obtain ⟨tail, htail⟩ : ∃ tail, tail = text ++ '"' :: rest := ⟨_, rfl⟩
  have hread : readString tail.length tail = some (s, rest) := by
    rw [htail]
    exact readString_of_denotes h (by simp) rest
  rw [quote_append, ← htail]
  simp [readValue, hread]

theorem readValue_number (h : isNumber token = true) (hrest : Stops rest) :
    readValue (fuel + 1) (token ++ rest) = some (.number token, rest) := by
  have hread := readNumber_of_isNumber h hrest
  cases token with
  | nil => cases h
  | cons c token =>
    have hc : numberChar c = true := numberChar_of_isNumber h c (by simp)
    have hne (d : Char) (hd : numberChar d = false) : c ≠ d := by
      rintro rfl
      exact Bool.false_ne_true (hd.symm.trans hc)
    rw [List.cons_append] at hread ⊢
    simp [readValue, hne '"' rfl, hne '[' rfl, hne '{' rfl, (hne 't' rfl).symm, (hne 'f' rfl).symm,
      (hne 'n' rfl).symm, hread]

/-- A text in which a value can be read. -/
structure Holds (fuel : Nat) (text : List Char) (v : Value) : Prop where
  starts : ∃ c rest, text = c :: rest ∧ space c = false ∧ c ≠ ']'
  reads : ∀ rest, Stops rest → readValue fuel (text ++ rest) = some (v, rest)

theorem holds_string (h : Denotes text s) : Holds (fuel + 1) (quote text) (.string s) where
  starts := ⟨'"', _, rfl, rfl, by decide⟩
  reads rest _ := readValue_string rest h

theorem holds_number (h : isNumber token = true) : Holds (fuel + 1) token (.number token) where
  starts := by
    cases token with
    | nil => cases h
    | cons c token =>
      have hc : numberChar c = true := numberChar_of_isNumber h c (by simp)
      refine ⟨c, token, rfl, ?_, ?_⟩
      · by_contra hspace
        rw [Bool.not_eq_false] at hspace
        have hspaces : Spaces [c] := by simpa [Spaces] using hspace
        exact Bool.false_ne_true ((stops_spaces hspaces stops_nil c [] rfl).symm.trans hc)
      · rintro rfl
        cases hc
  reads rest hrest := readValue_number rest h hrest

/-- A member is read as its key and its value. -/
theorem entry_member {key : List Char} {v : Value} {text' : List Char} (hkey : Denotes text key)
    (hv : Holds fuel text' v) :
    Entry (member (readValue fuel)) '}' (quote text ++ ':' :: text') (key, v) where
  starts := ⟨'"', _, rfl, rfl, by decide⟩
  reads rest hrest := by
    obtain ⟨tail, htail⟩ : ∃ tail, tail = text ++ '"' :: (':' :: (text' ++ rest)) := ⟨_, rfl⟩
    have hread : readString tail.length tail = some (key, ':' :: (text' ++ rest)) := by
      rw [htail]
      exact readString_of_denotes hkey (by simp) _
    have hskip : skip (text' ++ rest) = text' ++ rest := by
      obtain ⟨c, t, rfl, hspace, -⟩ := hv.starts
      exact skip_cons hspace _
    have hcolon (t : List Char) : skip (':' :: t) = ':' :: t := skip_cons rfl t
    rw [List.append_assoc, quote_append, List.cons_append, ← htail]
    simp [member, hread, hcolon, hskip, hv.reads rest hrest]

theorem closes_bracket : Closes ']' := ⟨rfl, rfl, by decide⟩

theorem closes_brace : Closes '}' := ⟨rfl, rfl, by decide⟩

section Containers

variable {β : Type} {entries : List β} {texts : β → List Char} {before after front ws : List Char}

/-- A text with the texts of values between brackets holds the array of the values. -/
theorem holds_array {values : β → Value} (hbefore : Spaces before) (hafter : Spaces after)
    (hfront : Spaces front) (hws : Spaces ws) (hfuel : entries.length ≤ fuel)
    (hentries : ∀ b ∈ entries, Holds fuel (texts b) (values b)) :
    Holds (fuel + 1)
      ('[' :: (front ++ (separated before after (entries.map texts) ++ (ws ++ [']']))))
      (.array (entries.map values)) where
  starts := ⟨'[', _, rfl, rfl, by decide⟩
  reads rest _ := by
    have hread := sequence_separated closes_bracket hbefore hafter hws
      (fun b hb => ⟨(hentries b hb).starts, (hentries b hb).reads⟩) hfuel hfront rest
    simp [readValue, hread]

/-- A text with the texts of members between braces holds the object of the members. -/
theorem holds_object {members : β → List Char × Value} (hbefore : Spaces before)
    (hafter : Spaces after) (hfront : Spaces front) (hws : Spaces ws)
    (hfuel : entries.length ≤ fuel)
    (hentries : ∀ b ∈ entries, Entry (member (readValue fuel)) '}' (texts b) (members b)) :
    Holds (fuel + 1)
      ('{' :: (front ++ (separated before after (entries.map texts) ++ (ws ++ ['}']))))
      (.object (entries.map members)) where
  starts := ⟨'{', _, rfl, rfl, by decide⟩
  reads rest _ := by
    have hread := sequence_separated closes_brace hbefore hafter hws hentries hfuel hfront rest
    simp [readValue, hread]

end Containers

theorem parse_of_holds {v : Value} (h : Holds text.length text v) : parse text = some v := by
  have hskip : skip text = text := by
    obtain ⟨c, t, rfl, hspace, -⟩ := h.starts
    exact skip_cons hspace t
  have hnil : skip [] = [] := rfl
  have hread := h.reads [] stops_nil
  rw [List.append_nil] at hread
  simp [parse, hskip, hread, hnil]

example : parse "[1, \"a\\n\", null]".toList =
    some (.array [.number ['1'], .string ['a', '\n'], .null]) := rfl

example : (parse "[1,]".toList).isNone = true := rfl

end Values

end Json
