import ZcashPayment.Html
import ZcashPayment.JsonText
import ZcashPayment.PayPage

/-!
The pay page cannot be injected.

The page is scanned part by part. Markup moves the scan on, and a value that is put in stands
where text can stand and holds nothing that ends it, so it leaves the scan where it is. What the
scan reports is therefore fixed by the branches of the template.
-/

namespace ZcashPayment

open Html

/-! ### Escaped values -/

lemma mem_escapeHtml {c : Char} {text : String} (h : c ∈ (escapeHtml text).toList) :
    c ≠ '<' ∧ c ≠ '>' ∧ c ≠ '"' ∧ c ≠ '\'' := by
  rw [escapeHtml, String.toList_ofList, List.mem_flatMap] at h
  obtain ⟨d, -, hc⟩ := h
  unfold escapeChar at hc
  split at hc
  case h_6 hamp hlt hgt hquote hapostrophe =>
    rw [List.mem_singleton.mp hc]
    exact ⟨hlt, hgt, hquote, hapostrophe⟩
  all_goals
    revert hc
    revert c
    simp only [String.reduceToList, List.forall_mem_cons, List.not_mem_nil, false_implies,
      implies_true, and_true]
    decide

lemma unescapeFrom_escapeChar (c : Char) (l : List Char) :
    unescapeFrom 0 (escapeChar c ++ l) = c :: unescapeFrom 0 l := by
  unfold escapeChar
  split
  case h_6 hamp _ _ _ _ =>
    rw [List.singleton_append, unescapeFrom, referenceAt_of_ne hamp]
  all_goals rfl

lemma unescape_escapeHtml (text : String) : unescape (escapeHtml text) = text := by
  have hall : ∀ l : List Char, unescapeFrom 0 (l.flatMap escapeChar) = l := by
    intro l
    induction l with
    | nil => rfl
    | cons c l ih => rw [List.flatMap_cons, unescapeFrom_escapeChar, ih]
  rw [unescape, escapeHtml, String.toList_ofList, hall, String.ofList_toList]

/-! ### The scan of the parts -/

/-- Where the scan stands behind the parts, if every part stands where it can. -/
def endState : Html.State → List PagePart → Option Html.State
  | s, [] => some s
  | s, .markup text :: parts => endState (run s text.toList).1 parts
  | s, .value _ :: parts => if s.holdsText then endState s parts else none
  | s, .drawing _ :: parts => if s = .data then endState s parts else none
  | s, .scriptData _ :: parts =>
    match s with
    | .raw name => endState (.raw name) parts
    | _ => none

/-- What the markup of the parts reports; `none` stands for the drawing. -/
def outline : Html.State → List PagePart → List (Option Html.Event)
  | _, [] => []
  | s, .markup text :: parts =>
    (run s text.toList).2.map some ++ outline (run s text.toList).1 parts
  | s, .value _ :: parts | s, .scriptData _ :: parts => outline s parts
  | s, .drawing _ :: parts => none :: outline s parts

/-- An outline with what the drawing reports in its place. -/
def fill (drawn : List Html.Event) (events : List (Option Html.Event)) : List Html.Event :=
  events.flatMap fun event => event.elim drawn fun e => [e]

def PagePart.isDrawing : PagePart → Bool
  | .drawing _ => true
  | _ => false

/-- Two parts that differ in what is put in only. -/
inductive PagePart.Same : PagePart → PagePart → Prop
  | markup (text : String) : Same (.markup text) (.markup text)
  | value (text text' : String) : Same (.value text) (.value text')
  | drawing (svg svg' : String) : Same (.drawing svg) (.drawing svg')
  | scriptData (json json' : String) : Same (.scriptData json) (.scriptData json')

/-- The drawing is whole, and the script's data has no `<`. -/
def PagePart.Whole (drawn : List Html.Event) : PagePart → Prop
  | .drawing svg => run .data svg.toList = (.data, drawn)
  | .scriptData json => '<' ∉ json.toList
  | .markup _ | .value _ => True

variable {s s' : Html.State} {parts parts' : List PagePart} {drawn : List Html.Event}

lemma fill_append (events events' : List (Option Html.Event)) :
    fill drawn (events ++ events') = fill drawn events ++ fill drawn events' :=
  List.flatMap_append

lemma fill_map_some (events : List Html.Event) : fill drawn (events.map some) = events := by
  rw [fill, List.flatMap_map]
  exact List.flatMap_singleton' events

lemma endState_append (s : Html.State) (parts parts' : List PagePart) :
    endState s (parts ++ parts') = (endState s parts).bind fun s => endState s parts' := by
  induction parts generalizing s with
  | nil => rfl
  | cons part parts ih =>
    cases part with
    | markup text => exact ih _
    | value text =>
      rw [List.cons_append, endState, endState]
      split_ifs
      · exact ih s
      · rfl
    | drawing svg =>
      rw [List.cons_append, endState, endState]
      split_ifs
      · exact ih s
      · rfl
    | scriptData json =>
      cases s with
      | raw name => exact ih _
      | _ => rfl

lemma endState_text {next : Html.State} {text : String} (hrun : (run s text.toList).1 = next) :
    endState s (.markup text :: parts) = endState next parts := by
  rw [endState, hrun]

/-- Markup whose characters are known moves the scan on. -/
lemma endState_markup (next : Html.State) {text : String} {l : List Char} (htext : text.toList = l)
    (hrun : (run s l).1 = next) : endState s (.markup text :: parts) = endState next parts :=
  endState_text (htext ▸ hrun)

lemma endState_value {text : String} (hs : s.holdsText = true) :
    endState s (.value text :: parts) = endState s parts :=
  if_pos hs

lemma endState_scriptData (name : List Char) (json : String) :
    endState (.raw name) (.scriptData json :: parts) = endState (.raw name) parts := rfl

/-- Pages of one shape have one outline. -/
lemma outline_same (h : List.Forall₂ PagePart.Same parts parts') (s : Html.State) :
    outline s parts = outline s parts' := by
  induction h generalizing s with
  | nil => rfl
  | cons hpart _ ih =>
    cases hpart with
    | markup text => rw [outline, outline, ih]
    | value text text' => exact ih s
    | drawing svg svg' => rw [outline, outline, ih]
    | scriptData json json' => exact ih s

lemma count_outline (s : Html.State) (parts : List PagePart) :
    (outline s parts).count none = parts.countP PagePart.isDrawing := by
  induction parts generalizing s with
  | nil => rfl
  | cons part parts ih =>
    cases part with
    | markup text =>
      have hnone : ∀ events : List Html.Event, (events.map some).count none = 0 := fun events =>
        List.count_eq_zero.mpr (by simp)
      rw [outline, List.count_append, hnone, ih, Nat.zero_add]
      rfl
    | value text => exact ih s
    | drawing svg =>
      rw [outline, List.count_cons_self, ih, List.countP_cons_of_pos rfl]
    | scriptData json => exact ih s

lemma fill_of_count {events : List (Option Html.Event)} (h : events.count none = 0) :
    fill drawn events = fill [] events :=
  List.flatMap_congr fun event hevent => by
    cases event with
    | none => exact absurd hevent (List.count_eq_zero.mp h)
    | some e => rfl

/-- What stands around the only drawing does not depend on it. -/
lemma fill_split {events : List (Option Html.Event)} (h : events.count none = 1) :
    ∃ before after, ∀ drawn, fill drawn events = before ++ drawn ++ after := by
  induction events with
  | nil => cases h
  | cons event events ih =>
    cases event with
    | none =>
      rw [List.count_cons_self, Nat.add_eq_right] at h
      refine ⟨[], fill [] events, fun drawn => ?_⟩
      rw [← fill_of_count h]
      rfl
    | some e =>
      rw [List.count_cons_of_ne (by simp)] at h
      obtain ⟨before, after, heq⟩ := ih h
      refine ⟨e :: before, after, fun drawn => ?_⟩
      have hcons : fill drawn (some e :: events) = e :: fill drawn events := rfl
      rw [hcons, heq, List.cons_append, List.cons_append]

/-- **The scan of the page** reports the outline, whatever is put in. -/
lemma run_parts (hwhole : ∀ part ∈ parts, part.Whole drawn) (h : endState s parts = some s') :
    run s (parts.flatMap fun part => part.text.toList) = (s', fill drawn (outline s parts)) := by
  induction parts generalizing s with
  | nil =>
    cases h
    rfl
  | cons part parts ih =>
    obtain ⟨hpart, hrest⟩ := List.forall_mem_cons.mp hwhole
    rw [List.flatMap_cons, run_append]
    cases part with
    | markup text =>
      have htext : (PagePart.markup text).text = text := rfl
      rw [htext, ih hrest h, outline, fill_append, fill_map_some]
    | value text =>
      rw [endState] at h
      split_ifs at h with hs
      have hvalue : run s (PagePart.value text).text.toList = (s, []) :=
        run_text hs (fun hmem => (mem_escapeHtml hmem).1 rfl)
          fun hmem => (mem_escapeHtml hmem).2.2.1 rfl
      rw [hvalue, ih hrest h, outline, List.nil_append]
    | drawing svg =>
      rw [endState] at h
      split_ifs at h with hs
      subst hs
      have hsvg : run .data (PagePart.drawing svg).text.toList = (.data, drawn) := hpart
      rw [hsvg, ih hrest h, outline, fill, fill, List.flatMap_cons]
      rfl
    | scriptData json =>
      cases s with
      | raw name =>
        have hjson : run (.raw name) (PagePart.scriptData json).text.toList = (.raw name, []) :=
          run_raw hpart
        rw [hjson, ih hrest h, outline, List.nil_append]
      | _ => cases h

/-! ### The template -/

variable {qrSvg : String → Except AppError String} {status status' : PaymentStatusResponse}
  {json json' : String}

section template

set_option maxRecDepth 20000

lemma run_pageHead : (run .data pageHead.toList).1 = .raw "title".toList := by
  unfold pageHead
  simp only [String.toList_append]
  repeat rw [String.toList_ofList]
  decide

lemma run_pageStyle : (run (.raw "title".toList) pageStyle.toList).1 = .data := by
  unfold pageStyle
  simp only [String.toList_append]
  repeat rw [String.toList_ofList]
  decide

lemma run_scriptShow : (run (.raw "script".toList) scriptShow.toList).1 =
    .raw "script".toList := by
  unfold scriptShow
  simp only [String.toList_append]
  repeat rw [String.toList_ofList]
  decide

lemma run_scriptPoll : (run (.raw "script".toList) scriptPoll.toList).1 = .data := by
  unfold scriptPoll
  simp only [String.toList_append]
  repeat rw [String.toList_ofList]
  decide

lemma endState_title (title : String) :
    endState .data [.markup pageHead, .value title, .markup pageStyle, .value title,
      .markup "</h1>\n"] = some .data := by
  refine (endState_text run_pageHead).trans ((endState_value rfl).trans ?_)
  refine (endState_text run_pageStyle).trans ((endState_value rfl).trans ?_)
  exact endState_markup .data String.toList_ofList (by decide)

lemma endState_amount : endState .data (amountParts status) = some .data := by
  unfold amountParts
  split
  · refine (endState_markup .data String.toList_ofList (by decide)).trans ?_
    refine (endState_value rfl).trans ?_
    refine (endState_markup .data String.toList_ofList (by decide)).trans ?_
    refine (endState_value rfl).trans ?_
    refine (endState_markup .data String.toList_ofList (by decide)).trans ?_
    refine (endState_value rfl).trans ?_
    exact endState_markup .data String.toList_ofList (by decide)
  · refine (endState_markup .data String.toList_ofList (by decide)).trans ?_
    refine (endState_value rfl).trans ?_
    exact endState_markup .data String.toList_ofList (by decide)
  · rfl

lemma endState_message : endState .data (messageParts status) = some .data := by
  unfold messageParts
  split
  · refine (endState_markup .data String.toList_ofList (by decide)).trans ?_
    refine (endState_value rfl).trans ?_
    exact endState_markup .data String.toList_ofList (by decide)
  · rfl

/-- The link stands in a quoted attribute. -/
lemma endState_control : endState .data (controlParts qrSvg status) = some .data := by
  unfold controlParts
  split_ifs
  · rfl
  refine (endState_markup .data String.toList_ofList (by decide)).trans ?_
  have hlink : endState .data [.markup "</div>\n<p><a class=\"button\" href=\"",
      .value status.qrText, .markup "\">Open in wallet</a></p>"] = some .data := by
    refine (endState_markup (.quoted ⟨false, ['a']⟩ '"') String.toList_ofList
      (by decide)).trans ?_
    refine (endState_value rfl).trans ?_
    exact endState_markup .data String.toList_ofList (by decide)
  have hnotice : (run .data tooLongNotice.toList).1 = .data := by
    unfold tooLongNotice
    simp only [String.toList_append]
    repeat rw [String.toList_ofList]
    decide
  rcases qrSvg status.qrText with e | svg
  · exact (endState_text hnotice).trans hlink
  · exact hlink

lemma endState_rest (address : String) (status : PaymentStatus) :
    endState .data [.markup "\n<p class=\"address\">", .value address,
      .markup "</p>\n<p id=\"status\" data-status=\"", .markup status.key,
      .markup "\" role=\"status\" aria-live=\"polite\">", .markup status.text,
      .markup "</p>\n<p id=\"total\"></p>\n</main>\n<script>\n(() => \x7b\n  const data = ",
      .scriptData json, .markup scriptShow, .markup scriptPoll] = some .data := by
  refine (endState_markup .data String.toList_ofList (by decide)).trans ?_
  refine (endState_value rfl).trans ?_
  refine (endState_markup (.quoted ⟨false, ['p']⟩ '"') String.toList_ofList
    (by decide)).trans ?_
  have hkey : (run (.quoted ⟨false, ['p']⟩ '"') status.key.toList).1 =
      .quoted ⟨false, ['p']⟩ '"' := by
    unfold PaymentStatus.key
    split <;> rw [String.toList_ofList] <;> decide
  refine (endState_text hkey).trans ?_
  refine (endState_markup .data String.toList_ofList (by decide)).trans ?_
  have htext : (run .data status.text.toList).1 = .data := by
    unfold PaymentStatus.text
    split <;> rw [String.toList_ofList] <;> decide
  refine (endState_text htext).trans ?_
  refine (endState_markup (.raw "script".toList) String.toList_ofList (by decide)).trans ?_
  rw [endState_scriptData, endState_text run_scriptShow, endState_text run_scriptPoll]
  rfl

end template

/-- **Every part of the page** stands where it can. -/
lemma endState_payPage :
    endState .data (payPageParts qrSvg status json) = some .data := by
  have hline : endState .data [.markup "\n"] = some .data :=
    endState_markup .data String.toList_ofList (by decide)
  unfold payPageParts
  simp only [endState_append, endState_title, endState_amount, hline, endState_message,
    endState_control, endState_rest, Option.bind_some]

/-! ### The page -/

/-- The QR code on the page; a settled page has none. -/
def qrOnPage (qrSvg : String → Except AppError String) (status : PaymentStatusResponse) :
    Option String :=
  if status.status = .paid ∨ status.status = .received then none
  else (qrSvg status.qrText).toOption

/-- The tags of the QR code on the page. -/
def qrTags (qrSvg : String → Except AppError String) (status : PaymentStatusResponse) :
    List Html.Event :=
  (qrOnPage qrSvg status).elim [] fun svg => (run .data svg.toList).2

/-- Two answers that take the same branches of the template. -/
structure SameBranches (qrSvg : String → Except AppError String)
    (status status' : PaymentStatusResponse) : Prop where
  status_eq : status.status = status'.status
  amount_eq : status.amount.isSome = status'.amount.isSome
  message_eq : (nonBlank status.message).isSome = (nonBlank status'.message).isSome
  remaining_eq : (remainingShown status).isSome = (remainingShown status').isSome
  drawn_eq : (qrOnPage qrSvg status).isSome = (qrOnPage qrSvg status').isSome

/-- A drawing is a whole document. -/
def QrSvgWhole (qrSvg : String → Except AppError String) : Prop :=
  ∀ text svg, qrSvg text = .ok svg → (run .data svg.toList).1 = .data

/-- What `serde_json` writes for an object is read as its members, in some order. -/
def SerdeCorrect (toJson : List (String × Option String) → Except AppError String) : Prop :=
  ∀ fields : List (String × Option String), (fields.map Prod.fst).Nodup →
    ∃ json read, toJson fields = .ok json ∧ JsonText.readJson json = some read ∧
      read.Perm fields

/-- A property of the parts of the page follows from what it is for each kind. -/
lemma forall_payPage {p : PagePart → Prop} (hmarkup : ∀ text, p (.markup text))
    (hvalue : ∀ text, p (.value text))
    (hdrawing : ∀ svg, qrOnPage qrSvg status = some svg → p (.drawing svg))
    (hdata : p (.scriptData (escapeLt json))) :
    ∀ part ∈ payPageParts qrSvg status json, p part := by
  have hamount : ∀ part ∈ amountParts status, p part := by
    unfold amountParts
    split <;> simp only [List.forall_mem_cons, List.not_mem_nil, false_implies, implies_true,
      hmarkup, hvalue, and_self]
  have hmessage : ∀ part ∈ messageParts status, p part := by
    unfold messageParts
    split <;> simp only [List.forall_mem_cons, List.not_mem_nil, false_implies, implies_true,
      hmarkup, hvalue, and_self]
  have hcontrol : ∀ part ∈ controlParts qrSvg status, p part := by
    unfold controlParts
    unfold qrOnPage at hdrawing
    split_ifs with hsettled
    · exact List.forall_mem_nil p
    · rw [if_neg hsettled] at hdrawing
      rcases hqr : qrSvg status.qrText with e | svg
      · simp only [List.forall_mem_cons, List.not_mem_nil, false_implies, implies_true, hmarkup,
          hvalue, and_self]
      · have hsvg : p (.drawing svg) := hdrawing svg (by rw [hqr]; rfl)
        simp only [List.forall_mem_cons, List.not_mem_nil, false_implies, implies_true, hmarkup,
          hvalue, hsvg, and_self]
  simp only [payPageParts, List.forall_mem_append, List.forall_mem_cons, List.not_mem_nil,
    false_implies, implies_true, hmarkup, hvalue, hdata, and_self, true_and, and_true]
  exact ⟨⟨hamount, hmessage⟩, hcontrol⟩

lemma countP_payPage : (payPageParts qrSvg status json).countP PagePart.isDrawing =
    if (qrOnPage qrSvg status).isSome then 1 else 0 := by
  have hamount : (amountParts status).countP PagePart.isDrawing = 0 := by
    unfold amountParts
    split <;> rfl
  have hmessage : (messageParts status).countP PagePart.isDrawing = 0 := by
    unfold messageParts
    split <;> rfl
  have hcontrol : (controlParts qrSvg status).countP PagePart.isDrawing =
      if (qrOnPage qrSvg status).isSome then 1 else 0 := by
    unfold controlParts qrOnPage
    by_cases hsettled : status.status = .paid ∨ status.status = .received
    · rw [if_pos hsettled, if_pos hsettled]
      rfl
    · rw [if_neg hsettled, if_neg hsettled]
      rcases qrSvg status.qrText with e | svg <;> rfl
  simp only [payPageParts, List.countP_append, hamount, hmessage, hcontrol]
  exact Nat.zero_add _

/-- Pages that take the same branches have one shape. -/
lemma same_payPage (h : SameBranches qrSvg status status') (json json' : String) :
    List.Forall₂ PagePart.Same (payPageParts qrSvg status json)
      (payPageParts qrSvg status' json') := by
  obtain ⟨hstatus, hamount, hmessage, hremaining, hdrawn⟩ := h
  have hamount : List.Forall₂ PagePart.Same (amountParts status) (amountParts status') := by
    unfold amountParts
    generalize status.amount = amount, status'.amount = amount' at hamount ⊢
    generalize remainingShown status = rest, remainingShown status' = rest' at hremaining ⊢
    rcases amount with _ | amount <;> rcases amount' with _ | amount' <;>
      simp only [Option.isSome, Bool.false_eq_true, reduceCtorEq] at hamount
    · exact .nil
    · rcases rest with _ | rest <;> rcases rest' with _ | rest' <;>
        simp only [Option.isSome, Bool.false_eq_true, reduceCtorEq] at hremaining
      all_goals
        simp only [List.forall₂_cons, List.Forall₂.nil, PagePart.Same.markup, PagePart.Same.value,
          and_self]
  have hmessage : List.Forall₂ PagePart.Same (messageParts status) (messageParts status') := by
    unfold messageParts
    generalize nonBlank status.message = message, nonBlank status'.message = message'
      at hmessage ⊢
    rcases message with _ | message <;> rcases message' with _ | message' <;>
      simp only [Option.isSome, Bool.false_eq_true, reduceCtorEq] at hmessage
    · exact .nil
    · simp only [List.forall₂_cons, List.Forall₂.nil, PagePart.Same.markup, PagePart.Same.value,
        and_self]
  have hcontrol : List.Forall₂ PagePart.Same (controlParts qrSvg status)
      (controlParts qrSvg status') := by
    unfold controlParts
    unfold qrOnPage at hdrawn
    rw [← hstatus] at hdrawn ⊢
    split_ifs with hsettled
    · exact .nil
    rw [if_neg hsettled, if_neg hsettled] at hdrawn
    generalize qrSvg status.qrText = qr, qrSvg status'.qrText = qr' at hdrawn ⊢
    rcases qr with e | svg <;> rcases qr' with e' | svg' <;>
      simp only [Except.toOption, Option.isSome, Bool.false_eq_true, reduceCtorEq] at hdrawn
    all_goals
      simp only [List.forall₂_cons, List.Forall₂.nil, PagePart.Same.markup, PagePart.Same.value,
        PagePart.Same.drawing, and_self]
  have happend {a a' b b' : List PagePart} (ha : List.Forall₂ PagePart.Same a a')
      (hb : List.Forall₂ PagePart.Same b b') : List.Forall₂ PagePart.Same (a ++ b) (a' ++ b') :=
    List.rel_append ha hb
  unfold payPageParts
  rw [hstatus]
  refine happend (happend (happend (happend (happend (happend ?_ hamount) ?_) hmessage) ?_)
    hcontrol) ?_
  all_goals
    simp only [List.forall₂_cons, List.Forall₂.nil, PagePart.Same.markup, PagePart.Same.value,
      PagePart.Same.scriptData, and_self]

lemma less_not_mem_escapeLt (json : String) : '<' ∉ (escapeLt json).toList := by
  rw [escapeLt, String.toList_ofList, List.mem_flatMap]
  rintro ⟨c, -, hc⟩
  split_ifs at hc with hless
  · revert hc
    decide
  · exact hless (List.mem_singleton.mp hc).symm

lemma readJson_escapeLt {read : List (String × Option String)}
    (h : JsonText.readJson json = some read) : JsonText.readJson (escapeLt json) = some read := by
  have hrun : JsonText.run (.between []) json.toList ≠ .dead := fun hdead => by
    rw [JsonText.readJson, hdead] at h
    cases h
  have hescape := JsonText.run_escape hrun
  unfold JsonText.escapedLess at hescape
  rw [JsonText.readJson, escapeLt, String.toList_ofList, hescape]
  exact h

/-- **The scan of a page** ends where it begins, and its tags are those of its shape. -/
lemma run_payPage (hqr : QrSvgWhole qrSvg) :
    run .data (joinParts (payPageParts qrSvg status json)).toList = (.data,
      fill (qrTags qrSvg status) (outline .data (payPageParts qrSvg status json))) := by
  have hwhole : ∀ part ∈ payPageParts qrSvg status json, part.Whole (qrTags qrSvg status) := by
    refine forall_payPage (fun _ => trivial) (fun _ => trivial) (fun svg hsvg => ?_)
      (less_not_mem_escapeLt json)
    have hok : qrSvg status.qrText = .ok svg := by
      unfold qrOnPage at hsvg
      split_ifs at hsvg
      rcases h : qrSvg status.qrText with e | svg'
      · rw [h] at hsvg
        cases hsvg
      · rw [h] at hsvg
        cases hsvg
        rfl
    have htags : qrTags qrSvg status = (run .data svg.toList).2 := by
      rw [qrTags, hsvg]
      rfl
    exact Prod.ext (hqr _ _ hok) htags.symm
  rw [joinParts, String.toList_ofList]
  exact run_parts hwhole endState_payPage

/-- What stands around the drawing is fixed by the branches. -/
lemma fill_payPage (h : SameBranches qrSvg status status') (json json' : String) :
    ∃ before after, fill (qrTags qrSvg status) (outline .data (payPageParts qrSvg status json)) =
        before ++ qrTags qrSvg status ++ after ∧
      fill (qrTags qrSvg status') (outline .data (payPageParts qrSvg status' json')) =
        before ++ qrTags qrSvg status' ++ after := by
  have hcount := (count_outline .data (payPageParts qrSvg status json)).trans countP_payPage
  have hsame := outline_same (same_payPage h json json') .data
  have hdrawn := h.drawn_eq
  rw [← hsame]
  split_ifs at hcount with hqr
  · obtain ⟨before, after, hsplit⟩ := fill_split hcount
    exact ⟨before, after, hsplit _, hsplit _⟩
  · have hnil : ∀ status, (qrOnPage qrSvg status).isSome = false → qrTags qrSvg status = [] := by
      intro status hnone
      rw [qrTags, Option.isSome_eq_false_iff.mp hnone |> Option.isNone_iff_eq_none.mp]
      rfl
    have hnone := Bool.eq_false_of_not_eq_true hqr
    rw [hnil status hnone, hnil status' (hdrawn ▸ hnone)]
    refine ⟨fill [] (outline .data (payPageParts qrSvg status json)), [], ?_, ?_⟩
    all_goals rw [List.append_nil, List.append_nil]

/-- What a page shows of an answer: each text stands on it as a value. -/
structure Shows (status : PaymentStatusResponse) (parts : List PagePart) : Prop where
  title : .value (status.label.getD "Pay with Zcash") ∈ parts
  amount : ∀ amount, status.amount = some amount → .value amount ∈ parts
  remaining : ∀ amount rest, status.amount = some amount → remainingShown status = some rest →
    .value rest ∈ parts ∧ .value status.totalReceived ∈ parts
  message : ∀ message, nonBlank status.message = some message → .value message ∈ parts
  address : .value status.address ∈ parts
  link : status.status ≠ .paid → status.status ≠ .received → .value status.qrText ∈ parts

lemma shows_payPage : Shows status (payPageParts qrSvg status json) where
  title := by simp [payPageParts]
  amount amount h := by
    have hmem : PagePart.value amount ∈ amountParts status := by
      unfold amountParts
      rw [h]
      rcases remainingShown status with _ | rest <;> simp
    simp [payPageParts, hmem]
  remaining amount rest h hrest := by
    have hmem : PagePart.value rest ∈ amountParts status ∧
        PagePart.value status.totalReceived ∈ amountParts status := by
      unfold amountParts
      rw [h, hrest]
      simp
    simp [payPageParts, hmem]
  message message h := by
    have hmem : PagePart.value message ∈ messageParts status := by
      unfold messageParts
      rw [h]
      simp
    simp [payPageParts, hmem]
  address := by simp [payPageParts]
  link hpaid hreceived := by
    have hmem : PagePart.value status.qrText ∈ controlParts qrSvg status := by
      unfold controlParts
      rw [if_neg (by simp [hpaid, hreceived])]
      simp
    simp [payPageParts, hmem]

/-- **The pay page cannot be injected.** Every text of the answer stands on the page as a value;
values are escaped and come back whole; the script's data stands on it once, has no `<` and is read
as the four fields it is written from; and the tags around the QR code are fixed by the branches of
the template. -/
theorem pay_page_safe {toJson : List (String × Option String) → Except AppError String}
    (hserde : SerdeCorrect toJson) (hqr : QrSvgWhole qrSvg) :
    (∀ status, ∃ json parts, renderPayPage qrSvg toJson status = .ok (joinParts parts) ∧
      parts = payPageParts qrSvg status json ∧ Shows status parts ∧
      (∀ text, .value text ∈ parts →
        (∀ c ∈ (PagePart.value text).text.toList, c ≠ '<' ∧ c ≠ '>' ∧ c ≠ '"' ∧ c ≠ '\'') ∧
          unescape (PagePart.value text).text = text) ∧
      (∃ data, .scriptData data ∈ parts) ∧
      ∀ data, .scriptData data ∈ parts → '<' ∉ data.toList ∧ ∃ read,
        JsonText.readJson data = some read ∧
        read.Perm [("paymentId", some status.paymentId), ("returnUrl", status.returnUrl),
          ("qrText", some status.qrText), ("status", some status.status.key)]) ∧
    ∀ status status', SameBranches qrSvg status status' → ∀ page page',
      renderPayPage qrSvg toJson status = .ok page →
      renderPayPage qrSvg toJson status' = .ok page' → ∃ before after,
        run .data page.toList = (.data, before ++ qrTags qrSvg status ++ after) ∧
        run .data page'.toList = (.data, before ++ qrTags qrSvg status' ++ after) := by
  have hrender : ∀ status json, toJson (scriptFields status) = .ok json →
      renderPayPage qrSvg toJson status = .ok (joinParts (payPageParts qrSvg status json)) := by
    intro status json hjson
    rw [renderPayPage, hjson]
    rfl
  have hfields : ∀ status, ((scriptFields status).map Prod.fst).Nodup := fun _ => by
    have hnodup : ["paymentId", "returnUrl", "qrText", "status"].Nodup := by decide
    exact hnodup
  refine ⟨fun status => ?_, fun status status' hsame page page' hpage hpage' => ?_⟩
  · obtain ⟨json, read, hjson, hread, hperm⟩ := hserde _ (hfields status)
    refine ⟨json, _, hrender status json hjson, rfl, shows_payPage, fun text _ => ?_,
      ⟨escapeLt json, by simp [payPageParts]⟩, fun data hdata => ?_⟩
    · exact ⟨fun c hc => mem_escapeHtml hc, unescape_escapeHtml text⟩
    · have heq : ∀ part ∈ payPageParts qrSvg status json, ∀ data, part = .scriptData data →
          data = escapeLt json := by
        refine forall_payPage (fun text data h => ?_) (fun text data h => ?_)
          (fun svg _ data h => ?_) fun data h => (PagePart.scriptData.inj h).symm
        all_goals cases h
      rw [heq _ hdata data rfl]
      exact ⟨less_not_mem_escapeLt json, read, readJson_escapeLt hread, hperm⟩
  · obtain ⟨json, -, hjson, -⟩ := hserde _ (hfields status)
    obtain ⟨json', -, hjson', -⟩ := hserde _ (hfields status')
    have hpage := Except.ok.inj ((hrender status json hjson).symm.trans hpage)
    have hpage' := Except.ok.inj ((hrender status' json' hjson').symm.trans hpage')
    rw [← hpage, ← hpage', run_payPage hqr, run_payPage hqr]
    obtain ⟨before, after, h, h'⟩ := fill_payPage hsame json json'
    refine ⟨before, after, ?_, ?_⟩
    · rw [h]
    · rw [h']

/-- A hostile label and none, with a writer that is right and a drawing that is whole. -/
theorem pay_page_safe_hostile_label :
    let status : PaymentStatusResponse :=
      { paymentId := "p", address := "u1", qrText := "zcash:u1", payUrl := "",
        label := some "</title><script>", message := none, amount := none, totalReceived := "0",
        receivedByConfirmations := none, stateVersion := 0, status := .awaitingPayment,
        returnUrl := some "</script>", createdAt := "t" }
    let write := fun fields : List (String × Option String) =>
      (.ok (JsonText.writeJson fields) : Except AppError String)
    let draw := fun _ : String => (.ok "<svg></svg>" : Except AppError String)
    ∃ parts page page' before after, page = joinParts parts ∧
      .value "</title><script>" ∈ parts ∧ renderPayPage draw write status = .ok page ∧
      renderPayPage draw write { status with label := none } = .ok page' ∧
      run .data page.toList = (.data, before ++ qrTags draw status ++ after) ∧
      run .data page'.toList = (.data, before ++ qrTags draw status ++ after) := by
  intro status write draw
  have hserde : SerdeCorrect write := fun fields _ =>
    ⟨_, fields, rfl, JsonText.readJson_writeJson fields, .rfl⟩
  have hqr : QrSvgWhole draw := fun text svg h => by
    cases h
    decide
  have hsafe := pay_page_safe hserde hqr
  obtain ⟨_, parts, hpage, -, hshows, -⟩ := hsafe.1 status
  obtain ⟨_, _, hpage', -⟩ := hsafe.1 { status with label := none }
  obtain ⟨before, after, h, h'⟩ := hsafe.2 status { status with label := none }
    ⟨rfl, rfl, rfl, rfl, rfl⟩ _ _ hpage hpage'
  exact ⟨parts, _, _, before, after, rfl, hshows.title, hpage, hpage', h, h'⟩

end ZcashPayment
