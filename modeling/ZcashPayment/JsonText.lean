import Mathlib.Data.List.Basic
import Mathlib.Tactic.Common
import Mathlib.Tactic.IntervalCases

/-!
JSON text of flat objects.

A text is read into tokens character by character, with the escapes of its strings decoded, and
the tokens are read as an object whose values are strings or `null`. A character that stands in
strings only can be written as an escape without a change of what is read.
-/

namespace JsonText

/-! ### Tokens -/

inductive Token
  | openObject
  | closeObject
  | openArray
  | closeArray
  | colon
  | comma
  | text (chars : List Char)
  /-- A number or a literal. -/
  | word (chars : List Char)

inductive State
  | between (tokens : List Token)
  | word (tokens : List Token) (read : List Char)
  | text (tokens : List Token) (read : List Char)
  | escape (tokens : List Token) (read : List Char)
  /-- Inside `\\u`, after the first unit of a pair if there is one; `digits` are still to come. -/
  | hex (tokens : List Token) (read : List Char) (first : Option ℕ) (digits value : ℕ)
  | pair (tokens : List Token) (read : List Char) (first : ℕ)
  | pairEscape (tokens : List Token) (read : List Char) (first : ℕ)
  | dead

def isSpace (c : Char) : Bool := c = ' ' || c = '\n' || c = '\r' || c = '\t'

def isWordChar (c : Char) : Bool := c.isAlphanum || c = '+' || c = '-' || c = '.'

def hexDigits : List Char := "0123456789abcdef".toList

def hexValue (c : Char) : Option ℕ := hexDigits.idxOf? c.toLower

/-- A code unit that has been read, after the first unit of a pair if there is one. -/
def endUnit (tokens : List Token) (read : List Char) (value : ℕ) : Option ℕ → State
  | none =>
    if 0xd800 ≤ value ∧ value < 0xdc00 then .pair tokens read value
    else if 0xdc00 ≤ value ∧ value < 0xe000 then .dead
    else .text tokens (read ++ [Char.ofNat value])
  | some first =>
    if 0xdc00 ≤ value ∧ value < 0xe000 then
      .text tokens
        (read ++ [Char.ofNat (0x10000 + (first - 0xd800) * 0x400 + (value - 0xdc00))])
    else .dead

def stepBetween (tokens : List Token) (c : Char) : State :=
  if isSpace c then .between tokens
  else if c = '"' then .text tokens []
  else if c = '\x7b' then .between (tokens ++ [.openObject])
  else if c = '\x7d' then .between (tokens ++ [.closeObject])
  else if c = '[' then .between (tokens ++ [.openArray])
  else if c = ']' then .between (tokens ++ [.closeArray])
  else if c = ':' then .between (tokens ++ [.colon])
  else if c = ',' then .between (tokens ++ [.comma])
  else if isWordChar c then .word tokens [c]
  else .dead

def stepEscape (tokens : List Token) (read : List Char) (c : Char) : State :=
  if c = '"' ∨ c = '\\' ∨ c = '/' then .text tokens (read ++ [c])
  else if c = 'b' then .text tokens (read ++ ['\x08'])
  else if c = 'f' then .text tokens (read ++ ['\x0c'])
  else if c = 'n' then .text tokens (read ++ ['\n'])
  else if c = 'r' then .text tokens (read ++ ['\r'])
  else if c = 't' then .text tokens (read ++ ['\t'])
  else if c = 'u' then .hex tokens read none 4 0
  else .dead

/-- One character. -/
def step : State → Char → State
  | .between tokens, c => stepBetween tokens c
  | .word tokens read, c =>
    if isWordChar c then .word tokens (read ++ [c])
    else stepBetween (tokens ++ [.word read]) c
  | .text tokens read, c =>
    if c = '"' then .between (tokens ++ [.text read])
    else if c = '\\' then .escape tokens read
    else if c.toNat < 32 then .dead
    else .text tokens (read ++ [c])
  | .escape tokens read, c => stepEscape tokens read c
  | .hex tokens read first digits value, c =>
    match hexValue c with
    | none => .dead
    | some digit =>
      if digits ≤ 1 then endUnit tokens read (16 * value + digit) first
      else .hex tokens read first (digits - 1) (16 * value + digit)
  | .pair tokens read first, c => if c = '\\' then .pairEscape tokens read first else .dead
  | .pairEscape tokens read first, c => if c = 'u' then .hex tokens read (some first) 4 0 else .dead
  | .dead, _ => .dead

def run (s : State) (l : List Char) : State := l.foldl step s

variable {s : State} {l m : List Char} {tokens : List Token} {read : List Char}

@[simp] lemma run_nil (s : State) : run s [] = s := rfl

@[simp] lemma run_cons (s : State) (c : Char) (l : List Char) :
    run s (c :: l) = run (step s c) l := rfl

lemma run_append (s : State) (l m : List Char) : run s (l ++ m) = run (run s l) m :=
  List.foldl_append ..

lemma run_dead (l : List Char) : run .dead l = .dead := by
  induction l with
  | nil => rfl
  | cons c l ih => exact ih

/-! ### Objects -/

def readValue : Token → Option (Option String)
  | .text chars => some (some (String.ofList chars))
  | .word chars => if chars = "null".toList then some none else none
  | _ => none

/-- The members up to the end of the object. -/
def readMembers : List Token → Option (List (String × Option String))
  | [.text key, .colon, token, .closeObject] =>
    (readValue token).map fun value => [(String.ofList key, value)]
  | .text key :: .colon :: token :: .comma :: rest =>
    match readValue token, readMembers rest with
    | some value, some members => some ((String.ofList key, value) :: members)
    | _, _ => none
  | _ => none

def readFields : List Token → Option (List (String × Option String))
  | [.openObject, .closeObject] => some []
  | .openObject :: rest => readMembers rest
  | _ => none

/-- The members of an object whose values are strings or `null`. -/
def readJson (text : String) : Option (List (String × Option String)) :=
  match run (.between []) text.toList with
  | .between tokens => readFields tokens
  | _ => none

/-! ### `<` as an escape -/

def escapedLess : List Char := "\\u003c".toList

/-- Outside strings a `<` is no JSON, and in a string its escape is read as `<`. -/
lemma step_less (s : State) : step s '<' = .dead ∨ run s escapedLess = step s '<' := by
  cases s with
  | text tokens read => exact Or.inr rfl
  | hex tokens read first digits value => exact Or.inl rfl
  | between | word | escape | pair | pairEscape | dead => exact Or.inl rfl

/-- **Escaping `<`** does not change what is read. -/
lemma run_escape (h : run s l ≠ .dead) :
    run s (l.flatMap fun c => if c = '<' then escapedLess else [c]) = run s l := by
  induction l generalizing s with
  | nil => rfl
  | cons c l ih =>
    rw [run_cons] at h
    rw [List.flatMap_cons, run_append, run_cons]
    split_ifs with hc
    · subst hc
      rcases step_less s with hdead | hsame
      · rw [hdead, run_dead] at h
        exact absurd rfl h
      · rw [hsame]
        exact ih h
    · exact ih h

/-! ### A writer -/

def hexDigit (n : ℕ) : Char := hexDigits.getD n '0'

def writeChar (c : Char) : List Char :=
  if c = '"' then ['\\', '"']
  else if c = '\\' then ['\\', '\\']
  else if c = '\x08' then ['\\', 'b']
  else if c = '\x0c' then ['\\', 'f']
  else if c = '\n' then ['\\', 'n']
  else if c = '\r' then ['\\', 'r']
  else if c = '\t' then ['\\', 't']
  else if c.toNat < 32 then
    ['\\', 'u', '0', '0', hexDigit (c.toNat / 16), hexDigit (c.toNat % 16)]
  else [c]

def writeText (text : String) : List Char := '"' :: (text.toList.flatMap writeChar ++ ['"'])

def writeValue : Option String → List Char
  | some text => writeText text
  | none => "null".toList

def writeMember (member : String × Option String) : List Char :=
  writeText member.1 ++ ':' :: writeValue member.2

def writeMembers : List (String × Option String) → List Char
  | [] => []
  | [member] => writeMember member
  | member :: next :: members => writeMember member ++ ',' :: writeMembers (next :: members)

def writeJson (members : List (String × Option String)) : String :=
  String.ofList ('\x7b' :: (writeMembers members ++ ['\x7d']))

lemma run_writeChar (c : Char) :
    run (.text tokens read) (writeChar c) = .text tokens (read ++ [c]) := by
  by_cases hcontrol : c.toNat < 32
  · rw [← Char.ofNat_toNat c]
    generalize c.toNat = n at hcontrol
    interval_cases n <;> rfl
  · by_cases hquote : c = '"'
    · subst hquote
      rfl
    by_cases hslash : c = '\\'
    · subst hslash
      rfl
    have hne {d : Char} (hd : d.toNat < 32) : c ≠ d := fun h => hcontrol (h ▸ hd)
    have hwrite : writeChar c = [c] := by
      simp only [writeChar, hquote, hslash, hcontrol, if_false, hne (d := '\x08') (by decide),
        hne (d := '\x0c') (by decide), hne (d := '\n') (by decide), hne (d := '\r') (by decide),
        hne (d := '\t') (by decide)]
    rw [hwrite, run_cons, run_nil, step]
    simp only [hquote, hslash, hcontrol, if_false]

lemma run_writeText (text : String) :
    run (.between tokens) (writeText text) = .between (tokens ++ [.text text.toList]) := by
  have hall : ∀ (l read : List Char), run (.text tokens read) (l.flatMap writeChar) =
      .text tokens (read ++ l) := by
    intro l
    induction l with
    | nil =>
      intro read
      rw [List.append_nil]
      rfl
    | cons c l ih =>
      intro read
      rw [List.flatMap_cons, run_append, run_writeChar, ih, List.append_assoc]
      rfl
  have hopen : step (.between tokens) '"' = .text tokens [] := rfl
  rw [writeText, run_cons, hopen, run_append, hall, List.nil_append]
  rfl

def valueToken : Option String → Token
  | some text => .text text.toList
  | none => .word "null".toList

/-- A value and the mark behind it; only the mark ends a word. -/
lemma run_writeValue (value : Option String) {c : Char} (hc : c = ',' ∨ c = '\x7d') :
    run (.between tokens) (writeValue value ++ [c]) =
      stepBetween (tokens ++ [valueToken value]) c := by
  rcases value with _ | text
  · rcases hc with rfl | rfl <;> rfl
  · rw [writeValue, run_append, run_writeText]
    rfl

def memberTokens : List (String × Option String) → List Token
  | [] => []
  | [member] => [.text member.1.toList, .colon, valueToken member.2]
  | member :: next :: members =>
    .text member.1.toList :: .colon :: valueToken member.2 :: .comma ::
      memberTokens (next :: members)

lemma run_writeMember (member : String × Option String) {c : Char} (hc : c = ',' ∨ c = '\x7d') :
    run (.between tokens) (writeMember member ++ [c]) =
      stepBetween (tokens ++ [.text member.1.toList, .colon, valueToken member.2]) c := by
  have hcolon : ∀ tokens, step (.between tokens) ':' = .between (tokens ++ [.colon]) :=
    fun _ => rfl
  rw [writeMember, List.append_assoc, run_append, run_writeText, List.cons_append, run_cons,
    hcolon, run_writeValue _ hc]
  simp only [List.append_assoc, List.cons_append, List.nil_append]

lemma run_writeMembers {member : String × Option String} {members : List (String × Option String)} :
    run (.between tokens) (writeMembers (member :: members) ++ ['\x7d']) =
      .between (tokens ++ memberTokens (member :: members) ++ [.closeObject]) := by
  induction members generalizing tokens member with
  | nil =>
    rw [writeMembers, run_writeMember _ (Or.inr rfl)]
    rfl
  | cons next members ih =>
    have hcomma : ∀ tokens, stepBetween tokens ',' = .between (tokens ++ [.comma]) := fun _ => rfl
    rw [writeMembers, List.append_assoc, List.cons_append, ← List.singleton_append,
      ← List.append_assoc, run_append, run_writeMember _ (Or.inl rfl), hcomma, ih]
    simp only [memberTokens, List.append_assoc, List.cons_append, List.nil_append]

lemma readValue_valueToken (value : Option String) : readValue (valueToken value) = some value := by
  rcases value with _ | text
  · rfl
  · rw [valueToken, readValue, String.ofList_toList]

lemma readMembers_memberTokens (member : String × Option String)
    (members : List (String × Option String)) :
    readMembers (memberTokens (member :: members) ++ [.closeObject]) =
      some (member :: members) := by
  induction members generalizing member with
  | nil =>
    simp only [memberTokens, List.cons_append, List.nil_append, readMembers, readValue_valueToken,
      Option.map_some, String.ofList_toList]
  | cons next members ih =>
    simp only [memberTokens, List.cons_append, readMembers, readValue_valueToken, ih,
      String.ofList_toList]

/-- **What is written is read back.** -/
theorem readJson_writeJson (members : List (String × Option String)) :
    readJson (writeJson members) = some members := by
  have hopen : step (.between []) '\x7b' = .between [.openObject] := rfl
  rw [readJson, writeJson, String.toList_ofList, run_cons, hopen]
  rcases members with _ | ⟨member, members⟩
  · rfl
  · have hread := readMembers_memberTokens member members
    obtain ⟨key, rest, htokens⟩ : ∃ key rest,
        memberTokens (member :: members) ++ [.closeObject] = .text key :: rest := by
      rcases members with _ | ⟨next, members⟩ <;> exact ⟨_, _, rfl⟩
    rw [run_writeMembers, List.append_assoc, htokens]
    rw [htokens] at hread
    exact hread

end JsonText
