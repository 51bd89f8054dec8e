import Mathlib.Data.List.Basic
import Mathlib.Tactic.Common

/-!
The tags of an HTML text.

The scan follows the tokenizer of the standard character by character, and reports each tag and
each attribute by its name. The content of a title, a style sheet and a script is raw: it ends at
its own end tag only. The scan gives up at a comment, at a CDATA section and inside a script that
opens a comment; what it reports without giving up is what a browser sees.
-/

namespace Html

inductive Event
  | openTag (name : List Char)
  | closeTag (name : List Char)
  | attribute (name : List Char)
  deriving DecidableEq, Repr

structure Tag where
  isEnd : Bool
  name : List Char
  deriving DecidableEq, Repr

inductive State
  | data
  /-- The content of a raw element. -/
  | raw (name : List Char)
  | rawLess (name : List Char)
  | rawEnd (name read : List Char)
  | tagOpen
  | endTagOpen
  | tagName (tag : Tag)
  | beforeAttribute (tag : Tag)
  | attributeName (tag : Tag) (read : List Char)
  | afterAttribute (tag : Tag)
  | beforeValue (tag : Tag)
  | quoted (tag : Tag) (quote : Char)
  | unquoted (tag : Tag)
  | afterQuoted (tag : Tag)
  | selfClosing (tag : Tag)
  /-- After `<!`. -/
  | declaration
  /-- A declaration or an instruction, up to its end. -/
  | skipped
  | unknown
  deriving DecidableEq, Repr

def isSpace (c : Char) : Bool := c = ' ' || c = '\n' || c = '\t' || c = '\r' || c = '\x0c'

def isLetter (c : Char) : Bool := c.isAlpha

/-- The elements whose content is raw. -/
def rawNames : List (List Char) :=
  ["title".toList, "textarea".toList, "style".toList, "script".toList, "xmp".toList,
    "iframe".toList, "noembed".toList, "noframes".toList, "noscript".toList]

def Tag.event (tag : Tag) : Event := if tag.isEnd then .closeTag tag.name else .openTag tag.name

/-- Where the scan goes on behind a tag. -/
def Tag.content (tag : Tag) : State :=
  if tag.isEnd then .data
  else if tag.name = "plaintext".toList then .unknown
  else if tag.name ∈ rawNames then .raw tag.name
  else .data

def stepBeforeAttribute (tag : Tag) (c : Char) : State × List Event :=
  if isSpace c then (.beforeAttribute tag, [])
  else if c = '/' then (.selfClosing tag, [])
  else if c = '>' then (tag.content, [])
  else (.attributeName tag [c.toLower], [])

def stepRaw (name : List Char) (c : Char) : State × List Event :=
  if c = '<' then (.rawLess name, []) else (.raw name, [])

/-- One character. -/
def step : State → Char → State × List Event
  | .data, c => if c = '<' then (.tagOpen, []) else (.data, [])
  | .raw name, c => stepRaw name c
  | .rawLess name, c =>
    if c = '/' then (.rawEnd name [], [])
    else if c = '!' then (.unknown, [])
    else stepRaw name c
  | .rawEnd name read, c =>
    if isLetter c then (.rawEnd name (read ++ [c.toLower]), [])
    else if read = name ∧ isSpace c then (.beforeAttribute ⟨true, name⟩, [.closeTag name])
    else if read = name ∧ c = '/' then (.selfClosing ⟨true, name⟩, [.closeTag name])
    else if read = name ∧ c = '>' then (.data, [.closeTag name])
    else stepRaw name c
  | .tagOpen, c =>
    if c = '!' then (.declaration, [])
    else if c = '/' then (.endTagOpen, [])
    else if isLetter c then (.tagName ⟨false, [c.toLower]⟩, [])
    else if c = '?' then (.skipped, [])
    else if c = '<' then (.tagOpen, [])
    else (.data, [])
  | .endTagOpen, c =>
    if isLetter c then (.tagName ⟨true, [c.toLower]⟩, [])
    else if c = '>' then (.data, [])
    else (.skipped, [])
  | .tagName tag, c =>
    if isSpace c then (.beforeAttribute tag, [tag.event])
    else if c = '/' then (.selfClosing tag, [tag.event])
    else if c = '>' then (tag.content, [tag.event])
    else (.tagName { tag with name := tag.name ++ [c.toLower] }, [])
  | .beforeAttribute tag, c => stepBeforeAttribute tag c
  | .attributeName tag read, c =>
    if isSpace c then (.afterAttribute tag, [.attribute read])
    else if c = '/' then (.selfClosing tag, [.attribute read])
    else if c = '>' then (tag.content, [.attribute read])
    else if c = '=' then (.beforeValue tag, [.attribute read])
    else (.attributeName tag (read ++ [c.toLower]), [])
  | .afterAttribute tag, c =>
    if c = '=' then (.beforeValue tag, []) else stepBeforeAttribute tag c
  | .beforeValue tag, c =>
    if isSpace c then (.beforeValue tag, [])
    else if c = '"' ∨ c = '\'' then (.quoted tag c, [])
    else if c = '>' then (tag.content, [])
    else (.unquoted tag, [])
  | .quoted tag quote, c => if c = quote then (.afterQuoted tag, []) else (.quoted tag quote, [])
  | .unquoted tag, c =>
    if isSpace c then (.beforeAttribute tag, [])
    else if c = '>' then (tag.content, [])
    else (.unquoted tag, [])
  | .afterQuoted tag, c => stepBeforeAttribute tag c
  | .selfClosing tag, c => if c = '>' then (tag.content, []) else stepBeforeAttribute tag c
  | .declaration, c =>
    if c = '-' ∨ c = '[' then (.unknown, []) else if c = '>' then (.data, []) else (.skipped, [])
  | .skipped, c => if c = '>' then (.data, []) else (.skipped, [])
  | .unknown, _ => (.unknown, [])

def run : State → List Char → State × List Event
  | s, [] => (s, [])
  | s, c :: cs =>
    let next := step s c
    let rest := run next.1 cs
    (rest.1, next.2 ++ rest.2)

variable {s : State} {l m : List Char} {tag : Tag} {name : List Char}

lemma run_append (s : State) (l m : List Char) :
    run s (l ++ m) = ((run (run s l).1 m).1, (run s l).2 ++ (run (run s l).1 m).2) := by
  induction l generalizing s with
  | nil => rfl
  | cons c l ih =>
    simp only [List.cons_append, run, ih, List.append_assoc]

/-- A character that leaves the scan where it is. -/
lemma run_of_step (h : ∀ c ∈ l, step s c = (s, [])) : run s l = (s, []) := by
  induction l with
  | nil => rfl
  | cons c l ih =>
    rw [List.forall_mem_cons] at h
    rw [run, h.1, ih h.2]
    rfl

/-- The places where a text without markup can stand. -/
def State.holdsText : State → Bool
  | .data | .raw _ => true
  | .quoted _ quote => quote = '"'
  | _ => false

/-- **Text without `<` and `"`** changes nothing where text can stand. -/
lemma run_text (hs : s.holdsText = true) (hless : '<' ∉ l) (hquote : '"' ∉ l) :
    run s l = (s, []) := by
  refine run_of_step fun c hc => ?_
  have hc' : c ≠ '<' := fun h => hless (h ▸ hc)
  cases s with
  | data => simp only [step, hc', if_false]
  | raw name => simp only [step, stepRaw, hc', if_false]
  | quoted tag quote =>
    have hq : c ≠ quote := by
      rintro rfl
      simp only [State.holdsText, decide_eq_true_eq] at hs
      exact hquote (hs ▸ hc)
    simp only [step, hq, if_false]
  | _ => cases hs

lemma run_raw (hless : '<' ∉ l) : run (.raw name) l = (.raw name, []) := by
  refine run_of_step fun c hc => ?_
  have hc' : c ≠ '<' := fun h => hless (h ▸ hc)
  simp only [step, stepRaw, hc', if_false]

/-! ### Character references -/

/-- The references that stand for the characters of markup. -/
def references : List (List Char × Char) :=
  [("&amp;".toList, '&'), ("&lt;".toList, '<'), ("&gt;".toList, '>'), ("&quot;".toList, '"'),
    ("&#39;".toList, '\'')]

/-- The reference at the start of a text. -/
def referenceAt (l : List Char) : Option (List Char × Char) :=
  references.find? fun reference => reference.1.isPrefixOf l

/-- Replace the references from left to right; the count is what is left of one that was read. -/
def unescapeFrom : ℕ → List Char → List Char
  | _, [] => []
  | k + 1, _ :: l => unescapeFrom k l
  | 0, c :: l =>
    match referenceAt (c :: l) with
    | some (reference, char) => char :: unescapeFrom (reference.length - 1) l
    | none => c :: unescapeFrom 0 l

def unescape (text : String) : String := String.ofList (unescapeFrom 0 text.toList)

lemma referenceAt_of_ne {c : Char} (h : c ≠ '&') : referenceAt (c :: l) = none := by
  have hne : ('&' == c) = false := beq_false_of_ne h.symm
  refine List.find?_eq_none.mpr fun reference hmem => ?_
  simp only [references, List.mem_cons, List.not_mem_nil, or_false] at hmem
  rcases hmem with rfl | rfl | rfl | rfl | rfl
  all_goals
    simp only [String.reduceToList, List.isPrefixOf, hne, Bool.false_and, Bool.false_eq_true,
      not_false_eq_true]

end Html
