import AsensingDriver.Monitor
import AsensingDriver.Lib.Json

/-! The strings of `report.json` and its section of events.  `readsBack_iff` says for which strings
a JSON reader gets them back.  Texts are lists of characters. -/

namespace AsensingDriver

open Json

def escapeChar (c : Char) : List Char :=
  if c = '\\' then ['\\', '\\']
  else if c = '"' then ['\\', '"']
  else if c = '\n' then ['\\', 'n']
  else if c = '\r' then ['\\', 'r']
  else if c = '\t' then ['\\', 't']
  else [c]

def jsonEscape (input : List Char) : List Char := input.flatMap escapeChar

/-- The text of a number. -/
def NumberToken : Type := { token : List Char // isNumber token = true }

section Events

variable {F : Type} (format : F → NumberToken)

def eventJson (event : Event F) : List Char :=
  "\x7b\"elapsed_sec\":".toList ++ (format event.elapsedSec).val ++
    ",\"kind\":\"".toList ++ jsonEscape event.kind.toList ++
    "\",\"detail\":\"".toList ++ jsonEscape event.detail.toList ++ "\"\x7d".toList

/-- The value of the key `events`. -/
def eventsJson (events : List (Event F)) : List Char :=
  "[\n".toList ++
    (events.zipIdx.flatMap fun (event, i) =>
      "    ".toList ++ eventJson format event ++
        (if i + 1 < events.length then ",".toList else []) ++ "\n".toList) ++
    "  ]".toList

/-! ### Reading back -/

/-- The strings of a report that do not come from the program. -/
def texts (sessionLabel : String) (events : List (Event F)) : List (List Char) :=
  sessionLabel.toList :: events.flatMap fun event => [event.kind.toList, event.detail.toList]

def eventValue (event : Event F) : Value :=
  .object
    [("elapsed_sec".toList, .number (format event.elapsedSec).val),
      ("kind".toList, .string event.kind.toList),
      ("detail".toList, .string event.detail.toList)]

/-- Every string is a literal that a reader decodes, and the events are read in order. -/
def ReadsBack (sessionLabel : String) (events : List (Event F)) : Prop :=
  (∀ s ∈ texts sessionLabel events, Denotes (jsonEscape s) s ∧
    parse (quote (jsonEscape s)) = some (.string s)) ∧
  parse (eventsJson format events) = some (.array (events.map (eventValue format)))

/-- No control characters but the three that are escaped. -/
def Clean (s : List Char) : Prop := ∀ c ∈ s, c.toNat < 0x20 → c = '\n' ∨ c = '\r' ∨ c = '\t'

/-! ### Strings -/

theorem jsonEscape_cons (c : Char) (s : List Char) :
    jsonEscape (c :: s) = escapeChar c ++ jsonEscape s := rfl

theorem clean_cons {c : Char} {s : List Char} :
    Clean (c :: s) ↔ (c.toNat < 0x20 → c = '\n' ∨ c = '\r' ∨ c = '\t') ∧ Clean s := by
  simp [Clean]

/-- What the escape of a character is: an escape of the grammar, or the character as it is. -/
theorem escapeChar_cases (c : Char) :
    (∃ e, escapeChar c = ['\\', e] ∧ escaped? e = some c ∧
      (c.toNat < 0x20 → c = '\n' ∨ c = '\r' ∨ c = '\t')) ∨
    escapeChar c = [c] ∧ c ≠ '"' ∧ c ≠ '\\' ∧ c ≠ '\n' ∧ c ≠ '\r' ∧ c ≠ '\t' := by
  unfold escapeChar
  split_ifs with h1 h2 h3 h4 h5
  · exact Or.inl ⟨'\\', rfl, by rw [h1]; decide, by rw [h1]; decide⟩
  · exact Or.inl ⟨'"', rfl, by rw [h2]; decide, by rw [h2]; decide⟩
  · exact Or.inl ⟨'n', rfl, by rw [h3]; decide, by simp [h3]⟩
  · exact Or.inl ⟨'r', rfl, by rw [h4]; decide, by simp [h4]⟩
  · exact Or.inl ⟨'t', rfl, by rw [h5]; decide, by simp [h5]⟩
  · exact Or.inr ⟨rfl, h2, h1, h3, h4, h5⟩

theorem denotes_jsonEscape {s : List Char} (h : Clean s) : Denotes (jsonEscape s) s := by
  induction s with
  | nil => exact .nil
  | cons c s ih =>
    obtain ⟨hc, hs⟩ := clean_cons.mp h
    rw [jsonEscape_cons]
    rcases escapeChar_cases c with ⟨e, he, hescaped, -⟩ | ⟨he, hquote, hslash, hn, hr, ht⟩
    · rw [he]
      exact .escape hescaped (ih hs)
    · rw [he]
      refine .plain ⟨?_, hquote, hslash⟩ (ih hs)
      by_contra hcontrol
      rcases hc (Nat.not_le.mp hcontrol) with h | h | h
      · exact hn h
      · exact hr h
      · exact ht h

/-- A text that a reader gets through has no raw control character. -/
theorem clean_of_readString {s : List Char} {fuel : Nat} {rest : List Char}
    {result : List Char × List Char}
    (h : readString fuel (jsonEscape s ++ '"' :: rest) = some result) : Clean s := by
  induction s generalizing fuel result with
  | nil => simp [Clean]
  | cons c s ih =>
    have hstep {fuel : Nat} (h : push c (readString fuel (jsonEscape s ++ '"' :: rest)) =
        some result) : Clean s := by
      rw [push, Option.map_eq_some_iff] at h
      obtain ⟨result', hresult, -⟩ := h
      exact ih hresult
    cases fuel with
    | zero => cases h
    | succ fuel =>
      rw [jsonEscape_cons, List.append_assoc] at h
      refine clean_cons.mpr ?_
      rcases escapeChar_cases c with ⟨e, he, hescaped, hcontrol⟩ | ⟨he, hquote, hslash, -⟩
      · rw [he, List.cons_append, List.cons_append, List.nil_append,
          readString_escape (readEscape_escaped hescaped)] at h
        exact ⟨hcontrol, hstep h⟩
      · rw [he, List.cons_append, List.nil_append] at h
        -- A raw control character ends the reading.
        by_cases hcontrol : c.toNat < 0x20
        · rw [readString, if_neg hquote, if_neg hslash, if_pos hcontrol] at h
          cases h
        · rw [readString_plain ⟨Nat.not_lt.mp hcontrol, hquote, hslash⟩] at h
          exact ⟨fun hc => absurd hc hcontrol, hstep h⟩

/-- A reader gets back exactly the strings without other control characters. -/
theorem parse_quote_iff {s : List Char} :
    parse (quote (jsonEscape s)) = some (.string s) ↔ Clean s := by
  constructor
  · intro h
    obtain ⟨tail, htail⟩ : ∃ tail, tail = jsonEscape s ++ ['"'] := ⟨_, rfl⟩
    have hquote : quote (jsonEscape s) = '"' :: tail := by rw [htail]; rfl
    have hskip : skip ('"' :: tail) = '"' :: tail := skip_cons rfl tail
    cases hread : readString tail.length tail with
    | none => simp [hquote, parse, hskip, readValue, hread] at h
    | some result =>
      rw [htail] at hread
      exact clean_of_readString hread
  · intro h
    have hlength : (quote (jsonEscape s)).length = (jsonEscape s).length + 1 + 1 := by simp [quote]
    apply parse_of_holds
    rw [hlength]
    exact holds_string (denotes_jsonEscape h)

/-! ### Events -/

/-- The members of an event: keys, texts and values. -/
def fields (event : Event F) : List (List Char × List Char × Value) :=
  [("elapsed_sec".toList, (format event.elapsedSec).val, .number (format event.elapsedSec).val),
    ("kind".toList, quote (jsonEscape event.kind.toList), .string event.kind.toList),
    ("detail".toList, quote (jsonEscape event.detail.toList), .string event.detail.toList)]

theorem eventJson_eq (event : Event F) :
    eventJson format event =
      '{' :: ([] ++ (separated [] []
        ((fields format event).map fun b => quote b.1 ++ ':' :: b.2.1) ++ ([] ++ ['}']))) := by
  have helapsed : "\x7b\"elapsed_sec\":".toList = '{' :: (quote "elapsed_sec".toList ++ [':']) := by
    decide
  have hkind : ",\"kind\":\"".toList = ',' :: (quote "kind".toList ++ [':', '"']) := by decide
  have hdetail : "\",\"detail\":\"".toList =
      '"' :: ',' :: (quote "detail".toList ++ [':', '"']) := by decide
  have hclose : "\"\x7d".toList = ['"', '}'] := by decide
  unfold eventJson
  rw [helapsed, hkind, hdetail, hclose]
  simp only [fields, List.map_cons, List.map_nil, separated, continued, quote, List.nil_append,
    List.cons_append, List.append_assoc]

theorem holds_eventJson {event : Event F} (hkind : Clean event.kind.toList)
    (hdetail : Clean event.detail.toList) (fuel : Nat) :
    Holds (fuel + 4) (eventJson format event) (eventValue format event) := by
  have hspaces : Spaces [] := by simp [Spaces]
  have hentries : ∀ b ∈ fields format event, Entry (member (readValue (fuel + 3))) '}'
      (quote b.1 ++ ':' :: b.2.1) (b.1, b.2.2) := by
    intro b hb
    simp only [fields, List.mem_cons, List.not_mem_nil, or_false] at hb
    rcases hb with rfl | rfl | rfl
    · exact entry_member (denotes_plain rfl) (holds_number (format event.elapsedSec).property)
    · exact entry_member (denotes_plain rfl) (holds_string (denotes_jsonEscape hkind))
    · exact entry_member (denotes_plain rfl) (holds_string (denotes_jsonEscape hdetail))
  rw [eventJson_eq]
  exact holds_object hspaces hspaces hspaces hspaces (by simp [fields]) hentries

theorem eventsJson_eq (events : List (Event F)) :
    eventsJson format events =
      '[' :: (['\n'] ++ (separated [' ', ' ', ' ', ' '] ['\n'] (events.map (eventJson format)) ++
        ([' ', ' '] ++ [']']))) := by
  have hrows := flatMap_zipIdx_separated (eventJson format) [' ', ' ', ' ', ' '] ['\n'] events 0
  rw [Nat.zero_add] at hrows
  rw [← hrows]
  simp [eventsJson]

theorem parse_eventsJson {events : List (Event F)}
    (h : ∀ event ∈ events, Clean event.kind.toList ∧ Clean event.detail.toList) :
    parse (eventsJson format events) = some (.array (events.map (eventValue format))) := by
  have hspaces {ws : List Char} (h : ∀ c ∈ ws, c = ' ' ∨ c = '\n') : Spaces ws := by
    intro c hc
    rcases h c hc with rfl | rfl <;> rfl
  have hholds (fuel : Nat) (hfuel : events.length ≤ fuel)
      (hevents : ∀ event ∈ events, Holds fuel (eventJson format event) (eventValue format event)) :
      Holds (fuel + 1) (eventsJson format events) (.array (events.map (eventValue format))) := by
    rw [eventsJson_eq]
    exact holds_array (hspaces (by simp)) (hspaces (by simp)) (hspaces (by simp))
      (hspaces (by simp)) hfuel hevents
  apply parse_of_holds
  cases events with
  | nil => exact hholds 4 (by simp) (by simp)
  | cons event events =>
    have hle : events.length + 5 ≤ (eventsJson format (event :: events)).length := by
      have hcommas := length_le_continued [' ', ' ', ' ', ' '] ['\n']
        (events.map (eventJson format))
      rw [List.length_map] at hcommas
      rw [eventsJson_eq]
      simp only [List.map_cons, separated, List.length_cons, List.length_append]
      omega
    obtain ⟨fuel, hfuel⟩ := Nat.exists_eq_add_of_le hle
    have hlength : (eventsJson format (event :: events)).length =
        events.length + fuel + 4 + 1 := by omega
    rw [hlength]
    refine hholds (events.length + fuel + 4) (by simp only [List.length_cons]; omega) ?_
    intro event hevent
    exact holds_eventJson format (h event hevent).1 (h event hevent).2 _

/-- A reader gets back the strings and the events of a report in exactly the cases in which no
string has a control character other than a line feed, a carriage return or a tab. -/
theorem readsBack_iff (sessionLabel : String) (events : List (Event F)) :
    ReadsBack format sessionLabel events ↔ ∀ s ∈ texts sessionLabel events, Clean s := by
  constructor
  · intro h s hs
    exact parse_quote_iff.mp (h.1 s hs).2
  · intro h
    refine ⟨fun s hs => ⟨denotes_jsonEscape (h s hs), parse_quote_iff.mpr (h s hs)⟩, ?_⟩
    apply parse_eventsJson
    intro event hevent
    constructor
    all_goals
      apply h
      refine List.mem_cons_of_mem _ (List.mem_flatMap.mpr ⟨event, hevent, ?_⟩)
      simp

end Events

/-- The operator's marker holds the control character U+0001. -/
theorem not_readsBack_control :
    ¬ReadsBack (fun _ => ⟨"1.500000".toList, by decide⟩) "r3"
      [(⟨.num 1.5, "marker", "\x01"⟩ : Event Exact)] := by
  intro h
  have hclean := parse_quote_iff.mp (h.1 "\x01".toList (by simp [texts])).2
  exact absurd (hclean '\x01' (by decide) (by decide)) (by decide)

end AsensingDriver
