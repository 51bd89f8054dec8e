import ZcashPayment.PaymentStatus

/-!
The hosted pay page.

The template is a list of parts: the markup of the template itself, the values that are put into
it, each escaped for the place it stands at, the drawing of the QR code and the data the script
reads. The page is the parts put together.
-/

namespace ZcashPayment

/-! ### Escaping -/

def escapeChar : Char → List Char
  | '&' => "&amp;".toList
  | '<' => "&lt;".toList
  | '>' => "&gt;".toList
  | '"' => "&quot;".toList
  | '\'' => "&#39;".toList
  | other => [other]

def escapeHtml (value : String) : String := String.ofList (value.toList.flatMap escapeChar)

/-! ### The template -/

/-- A part of the page. -/
inductive PagePart
  | markup (text : String)
  /-- A text that is escaped where it is put in. -/
  | value (text : String)
  /-- The drawing of the QR code. -/
  | drawing (svg : String)
  | scriptData (json : String)

def PagePart.text : PagePart → String
  | .markup text => text
  | .value text => escapeHtml text
  | .drawing svg => svg
  | .scriptData json => json

def PaymentStatus.key : PaymentStatus → String
  | .awaitingPayment => "awaiting_payment"
  | .partiallyPaid => "partially_paid"
  | .paid => "paid"
  | .received => "received"

def PaymentStatus.text : PaymentStatus → String
  | .awaitingPayment => "Waiting for payment…"
  | .partiallyPaid => "Partial payment received. Please send the rest."
  | .paid | .received => "Payment received. Thank you!"

/-- Up to the title. -/
def pageHead : String :=
  "<!doctype html>\n" ++
    "<html lang=\"en\">\n" ++
    "<head>\n" ++
    "<meta charset=\"utf-8\">\n" ++
    "<meta name=\"viewport\" content=\"width=device-width, initial-scale=1\">\n" ++
    "<meta name=\"robots\" content=\"noindex\">\n" ++
    "<title>"

/-- The style sheet, and up to the heading. -/
def pageStyle : String :=
  "</title>\n" ++
    "<style>\n" ++
    "body \x7b font-family: system-ui, sans-serif; margin: 0; background: #f6f6f4; color: " ++
    "#1c1c1c; \x7d\n" ++
    "main \x7b max-width: 28rem; margin: 2rem auto; padding: 1.5rem; background: #fff; " ++
    "border-radius: 12px; box-shadow: 0 1px 4px rgba(0,0,0,.08); text-align: center; \x7d\n" ++
    "h1 \x7b font-size: 1.25rem; margin: 0 0 .5rem; \x7d\n" ++
    ".amount \x7b font-size: 1.75rem; font-weight: 600; margin: .5rem 0; \x7d\n" ++
    ".qr svg \x7b width: 16rem; height: 16rem; \x7d\n" ++
    ".address \x7b font-family: ui-monospace, monospace; font-size: .75rem; word-break: " ++
    "break-all; background: #f1f1ef; padding: .5rem; border-radius: 6px; \x7d\n" ++
    ".button \x7b display: inline-block; margin: .75rem 0; padding: .6rem 1.2rem; " ++
    "border-radius: 8px; background: #1c1c1c; color: #fff; text-decoration: none; \x7d\n" ++
    "#status \x7b margin-top: 1rem; font-weight: 600; \x7d\n" ++
    "#status[data-status=\"paid\"], #status[data-status=\"received\"] \x7b color: #19773b; " ++
    "\x7d\n" ++
    "#status[data-status=\"partially_paid\"] \x7b color: #9a5b00; \x7d\n" ++
    "</style>\n" ++
    "</head>\n" ++
    "<body>\n" ++
    "<main>\n" ++
    "<h1>"

/-- The script up to its polling. -/
def scriptShow : String :=
  ";\n" ++
    "  const labels = \x7b\n" ++
    "    awaiting_payment: \"Waiting for payment…\",\n" ++
    "    partially_paid: \"Partial payment received. Please send the rest.\",\n" ++
    "    paid: \"Payment received. Thank you!\",\n" ++
    "    received: \"Payment received. Thank you!\",\n" ++
    "  \x7d;\n" ++
    "  const statusEl = document.getElementById(\"status\");\n" ++
    "  const totalEl = document.getElementById(\"total\");\n" ++
    "  const settled = (s) => s === \"paid\" || s === \"received\";\n" ++
    "  // Whether the page currently lacks payment controls (rendered settled, or removed " ++
    "below).\n" ++
    "  let controlsRemoved = settled(data.status);\n" ++
    "  const done = (s) => (s === \"paid\" || s === \"received\") && !!data.returnUrl;\n" ++
    "  const show = (s, total) => \x7b\n" ++
    "    statusEl.dataset.status = s;\n" ++
    "    statusEl.textContent = labels[s] || s;\n" ++
    "    totalEl.textContent = total && Number(total) > 0 ? \"Received so far: \" + total + " ++
    "\" ZEC\" : \"\";\n" ++
    "    if (s === \"paid\" || s === \"received\") \x7b\n" ++
    "      document.querySelectorAll(\".qr, a.button, .due\").forEach((el) => el.remove());\n" ++
    "      controlsRemoved = true;\n" ++
    "    \x7d\n" ++
    "  \x7d;\n" ++
    "  // Stop polling only when leaving for the return URL. Otherwise keep the shown state " ++
    "current,\n" ++
    "  // since an unconfirmed receipt can still be dropped.\n" ++
    "  const finish = () => \x7b\n" ++
    "    setTimeout(() => \x7b window.location.assign(data.returnUrl); \x7d, 1500);\n" ++
    "  \x7d;\n" ++
    "  if (done(data.status)) \x7b finish(); return; \x7d\n"

/-- The polling, and the end of the page. -/
def scriptPoll : String :=
  "  const poll = async () => \x7b\n" ++
    "    try \x7b\n" ++
    "      const response = await fetch(\"../payments/\" + " ++
    "encodeURIComponent(data.paymentId), \x7b headers: \x7b accept: \"application/json\" " ++
    "\x7d, cache: \"no-store\" \x7d);\n" ++
    "      if (response.ok) \x7b\n" ++
    "        const body = await response.json();\n" ++
    "        show(body.status, body.total_received);\n" ++
    "        if (done(body.status)) \x7b finish(); return; \x7d\n" ++
    "        // The request changes after a partial payment (it asks only for the rest), and " ++
    "a revoked\n" ++
    "        // receipt can raise it again or bring back a request the page already removed. " ++
    "Reload\n" ++
    "        // whenever there is still something to pay and the shown request is stale or " ++
    "missing.\n" ++
    "        const unpaid = body.status === \"partially_paid\" || body.status === " ++
    "\"awaiting_payment\";\n" ++
    "        if (unpaid && body.qr_text && (body.qr_text !== data.qrText || " ++
    "controlsRemoved)) \x7b window.location.reload(); return; \x7d\n" ++
    "      \x7d\n" ++
    "    \x7d catch (e) \x7b /* keep polling */ \x7d\n" ++
    "    setTimeout(poll, 3000);\n" ++
    "  \x7d;\n" ++
    "  setTimeout(poll, 3000);\n" ++
    "\x7d)();\n" ++
    "</script>\n" ++
    "</body>\n" ++
    "</html>\n"

/-! ### render_pay_page -/

def tooLongNotice : String :=
  "<p class=\"message\">The payment request is too long for a QR code. Use the wallet link " ++
    "or copy the address below.</p>"

/-- The QR code and the wallet link; a settled link offers nothing more to pay. -/
def controlParts (qrSvg : String → Except AppError String) (status : PaymentStatusResponse) :
    List PagePart :=
  if status.status = .paid ∨ status.status = .received then []
  else
    [.markup "<div class=\"qr\" aria-label=\"QR code for the payment request\">",
      match qrSvg status.qrText with
      | .ok svg => .drawing svg
      | .error _ => .markup tooLongNotice,
      .markup "</div>\n<p><a class=\"button\" href=\"",
      .value status.qrText,
      .markup "\">Open in wallet</a></p>"]

/-- What is still owed, where that is not the whole amount. -/
def remainingShown (status : PaymentStatusResponse) : Option String :=
  status.amount.bind fun amount =>
    let received := (parseZecAmount status.totalReceived).getD 0
    (remainingAmount (some amount) received).filter (· ≠ amount)

/-- After a partial payment the amount still owed leads. -/
def amountParts (status : PaymentStatusResponse) : List PagePart :=
  match status.amount, remainingShown status with
  | some amount, some rest =>
    [.markup "<div class=\"due\"><p class=\"amount\"><span>", .value rest,
      .markup "</span> ZEC remaining</p><p class=\"message\">of ", .value amount,
      .markup " ZEC; ", .value status.totalReceived, .markup " ZEC received so far</p></div>"]
  | some amount, none =>
    [.markup "<div class=\"due\"><p class=\"amount\"><span>", .value amount,
      .markup "</span> ZEC</p></div>"]
  | none, _ => []

def messageParts (status : PaymentStatusResponse) : List PagePart :=
  match nonBlank status.message with
  | some message => [.markup "<p class=\"message\">", .value message, .markup "</p>"]
  | none => []

/-- The fields of the script's data; `none` is `null`. -/
def scriptFields (status : PaymentStatusResponse) : List (String × Option String) :=
  [("paymentId", some status.paymentId), ("returnUrl", status.returnUrl),
    ("qrText", some status.qrText), ("status", some status.status.key)]

/-- `replace('<', "\\u003c")` -/
def escapeLt (json : String) : String :=
  String.ofList (json.toList.flatMap fun c => if c = '<' then "\\u003c".toList else [c])

def payPageParts (qrSvg : String → Except AppError String) (status : PaymentStatusResponse)
    (json : String) : List PagePart :=
  let title := status.label.getD "Pay with Zcash"
  [.markup pageHead, .value title, .markup pageStyle, .value title, .markup "</h1>\n"] ++
    amountParts status ++ [.markup "\n"] ++ messageParts status ++ [.markup "\n"] ++
    controlParts qrSvg status ++
    [.markup "\n<p class=\"address\">", .value status.address,
      .markup "</p>\n<p id=\"status\" data-status=\"", .markup status.status.key,
      .markup "\" role=\"status\" aria-live=\"polite\">", .markup status.status.text,
      .markup "</p>\n<p id=\"total\"></p>\n</main>\n<script>\n(() => \x7b\n  const data = ",
      .scriptData (escapeLt json), .markup scriptShow, .markup scriptPoll]

def joinParts (parts : List PagePart) : String :=
  String.ofList (parts.flatMap fun part => part.text.toList)

/-- `qrSvg` draws a text, and `toJson` is `serde_json::to_string` of an object. -/
def renderPayPage (qrSvg : String → Except AppError String)
    (toJson : List (String × Option String) → Except AppError String)
    (status : PaymentStatusResponse) : Except AppError String := do
  let json ← toJson (scriptFields status)
  return joinParts (payPageParts qrSvg status json)

/-! ### What the payer is asked for -/

/-- The bytes of the amount that a wallet reads. -/
def amountParam (qrText : String) : Option Bytes :=
  (readQrText qrText).bind fun read => read.2.lookup "amount"

def remainingWords : String := "</span> ZEC remaining"

/-- The values that stand before the words "ZEC remaining"; `last` is the value read last. -/
def remainingOn (last : Option String) : List PagePart → List String
  | [] => []
  | .value shown :: parts => remainingOn (some shown) parts
  | .markup text :: parts =>
    (if remainingWords.toList.isPrefixOf text.toList then last.toList else []) ++
      remainingOn none parts
  | .drawing _ :: parts | .scriptData _ :: parts => remainingOn none parts

/-- Every page of a response announces this amount as remaining, and no other. -/
def PageAsks (response : PaymentStatusResponse) (rest : Option String) : Prop :=
  ∀ (qrSvg : String → Except AppError String)
    (toJson : List (String × Option String) → Except AppError String) (json : String),
    toJson (scriptFields response) = .ok json → ∃ page,
      renderPayPage qrSvg toJson response = .ok page ∧
      page = joinParts (payPageParts qrSvg response json) ∧
      remainingOn none (payPageParts qrSvg response json) = rest.toList ∧
      ∀ shown, rest = some shown → ∃ before after,
        page = before ++ escapeHtml shown ++ remainingWords ++ after

variable {address text shown : String} {requested amount memo message rest : Option String}
  {n : ℕ} {qrSvg : String → Except AppError String} {status response : PaymentStatusResponse}
  {json : String} {parts parts' : List PagePart} {last : Option String}

lemma remainingOn_value (shown : String) (parts : List PagePart) :
    remainingOn last (.value shown :: parts) = remainingOn (some shown) parts := rfl

lemma remainingOn_none (text : String) (parts : List PagePart) :
    remainingOn none (.markup text :: parts) = remainingOn none parts := by
  rw [remainingOn, Option.toList_none, ite_self, List.nil_append]

lemma remainingOn_scriptData (data : String) (parts : List PagePart) :
    remainingOn last (.scriptData data :: parts) = remainingOn none parts := rfl

lemma remainingOn_words {text : String} (h : remainingWords.toList.isPrefixOf text.toList = true)
    (shown : String) (parts : List PagePart) :
    remainingOn (some shown) (.markup text :: parts) = shown :: remainingOn none parts := by
  rw [remainingOn, if_pos h]
  rfl

lemma remainingOn_other {text : String} (h : remainingWords.toList.isPrefixOf text.toList = false)
    (shown : String) (parts : List PagePart) :
    remainingOn (some shown) (.markup text :: parts) = remainingOn none parts := by
  rw [remainingOn, if_neg (by simp [h]), List.nil_append]

/-- Behind markup no value is pending. -/
lemma remainingOn_append (parts : List PagePart) (text : String) (parts' : List PagePart) :
    remainingOn last (parts ++ .markup text :: parts') =
      remainingOn last (parts ++ [.markup text]) ++ remainingOn none parts' := by
  induction parts generalizing last with
  | nil => simp [remainingOn]
  | cons part parts ih => cases part <;> simp [remainingOn, ih]

lemma joinParts_cons (part : PagePart) (parts : List PagePart) :
    joinParts (part :: parts) = part.text ++ joinParts parts := by
  rw [joinParts, joinParts, List.flatMap_cons, String.ofList_append, String.ofList_toList]

/-- What is announced as remaining stands in the text of the page. -/
lemma text_of_remainingOn (h : shown ∈ remainingOn last parts) :
    (∃ before after, joinParts parts = before ++ escapeHtml shown ++ remainingWords ++ after) ∨
      last = some shown ∧ ∃ after, joinParts parts = remainingWords ++ after := by
  induction parts generalizing last with
  | nil => cases h
  | cons part parts ih =>
    rw [joinParts_cons]
    have hlater : (shown ∈ remainingOn none parts) →
        ∃ before after, part.text ++ joinParts parts =
          before ++ escapeHtml shown ++ remainingWords ++ after := by
      intro hmem
      obtain ⟨before, after, heq⟩ | ⟨hnone, -⟩ := ih hmem
      · exact ⟨part.text ++ before, after, by simp [heq, String.append_assoc]⟩
      · cases hnone
    cases part with
    | value text =>
      have hnext : shown ∈ remainingOn (some text) parts := h
      obtain ⟨before, after, heq⟩ | ⟨hlast, after, heq⟩ := ih hnext
      · exact Or.inl ⟨escapeHtml text ++ before, after, by
          simp [heq, PagePart.text, String.append_assoc]⟩
      · cases hlast
        exact Or.inl ⟨"", after, by simp [heq, PagePart.text, String.append_assoc]⟩
    | markup text =>
      rcases List.mem_append.mp h with h | h
      · split_ifs at h with hwords
        · obtain ⟨l, hl⟩ := List.isPrefixOf_iff_prefix.mp hwords
          have htext : text = remainingWords ++ String.ofList l := by
            rw [← String.ofList_toList (s := text), ← hl, String.ofList_append,
              String.ofList_toList]
          refine Or.inr ⟨Option.mem_toList.mp h, String.ofList l ++ joinParts parts, ?_⟩
          rw [PagePart.text, htext, String.append_assoc]
        · cases h
      · exact Or.inl (hlater h)
    | drawing svg => exact Or.inl (hlater h)
    | scriptData data => exact Or.inl (hlater h)

section template

lemma words_pageStyle : remainingWords.toList.isPrefixOf pageStyle.toList = false := by
  unfold remainingWords pageStyle
  simp only [String.toList_append]
  repeat rw [String.toList_ofList]
  decide

lemma words_heading : remainingWords.toList.isPrefixOf "</h1>\n".toList = false := by decide

lemma words_remaining : remainingWords.toList.isPrefixOf
    "</span> ZEC remaining</p><p class=\"message\">of ".toList = true := by decide

lemma words_of : remainingWords.toList.isPrefixOf " ZEC; ".toList = false := by decide

lemma words_received :
    remainingWords.toList.isPrefixOf " ZEC received so far</p></div>".toList = false := by decide

lemma words_whole : remainingWords.toList.isPrefixOf "</span> ZEC</p></div>".toList = false := by
  decide

lemma words_message : remainingWords.toList.isPrefixOf "</p>".toList = false := by decide

lemma words_link : remainingWords.toList.isPrefixOf "\">Open in wallet</a></p>".toList = false := by
  decide

lemma words_address : remainingWords.toList.isPrefixOf
    "</p>\n<p id=\"status\" data-status=\"".toList = false := by decide

lemma remainingOn_amount :
    remainingOn none (amountParts status ++ [.markup "\n"]) = (remainingShown status).toList := by
  unfold amountParts
  split
  next amount rest _ hrest =>
    simp only [List.cons_append, List.nil_append, remainingOn_none, remainingOn_value,
      remainingOn_words words_remaining, remainingOn_other words_of,
      remainingOn_other words_received, hrest]
    rfl
  next amount _ hrest =>
    simp only [List.cons_append, List.nil_append, remainingOn_none, remainingOn_value,
      remainingOn_other words_whole, hrest]
    rfl
  next hamount =>
    rw [remainingShown, hamount]
    rfl

lemma remainingOn_message : remainingOn none (messageParts status ++ [.markup "\n"]) = [] := by
  unfold messageParts
  split
  · simp only [List.cons_append, List.nil_append, remainingOn_none, remainingOn_value,
      remainingOn_other words_message]
    rfl
  · rfl

/-- Neither the link nor the address stands before the words. -/
lemma remainingOn_control (parts : List PagePart) :
    remainingOn none (controlParts qrSvg status ++ .markup "\n<p class=\"address\">" ::
      .value status.address :: .markup "</p>\n<p id=\"status\" data-status=\"" :: parts) =
        remainingOn none parts := by
  unfold controlParts
  split_ifs
  · simp only [List.nil_append, remainingOn_none, remainingOn_value,
      remainingOn_other words_address]
  · rcases qrSvg status.qrText with e | svg
    · simp only [List.cons_append, List.nil_append, remainingOn_none, remainingOn_value,
        remainingOn_other words_link, remainingOn_other words_address]
    · have hsvg : ∀ parts, remainingOn none (.drawing svg :: parts) = remainingOn none parts :=
        fun _ => rfl
      simp only [List.cons_append, List.nil_append, remainingOn_none, remainingOn_value, hsvg,
        remainingOn_other words_link, remainingOn_other words_address]

/-- **The page announces what is remaining**, and nothing else. -/
lemma remainingOn_payPage :
    remainingOn none (payPageParts qrSvg status json) = (remainingShown status).toList := by
  simp only [payPageParts, List.append_assoc, List.cons_append, List.nil_append, remainingOn_none,
    remainingOn_value, remainingOn_other words_pageStyle, remainingOn_other words_heading]
  rw [remainingOn_append (amountParts status), remainingOn_append (messageParts status),
    remainingOn_amount, remainingOn_message, remainingOn_control]
  simp only [remainingOn_none, remainingOn_scriptData, List.nil_append]
  rw [remainingOn, List.append_nil]

end template

/-- Every page of a response announces the amount `remainingShown` finds. -/
lemma pageAsks_remainingShown (response : PaymentStatusResponse) :
    PageAsks response (remainingShown response) := by
  intro qrSvg toJson json hjson
  refine ⟨_, ?_, rfl, remainingOn_payPage, fun shown hshown => ?_⟩
  · rw [renderPayPage, hjson]
    rfl
  · have hmem : shown ∈ remainingOn none (payPageParts qrSvg response json) := by
      rw [remainingOn_payPage, hshown]
      exact List.mem_singleton_self shown
    exact (text_of_remainingOn hmem).resolve_right fun h => by cases h.1

lemma nonBlank_of_parse (h : parseZecAmount text = some n) : nonBlank (some text) = some text := by
  have hne : trimSpace text ≠ [] := fun hnil => by
    have hnone : parseZecAmount text = none := by
      unfold parseZecAmount
      rw [hnil]
      rfl
    rw [hnone] at h
    cases h
  rw [nonBlank, Option.filter_some, if_pos (by simpa using hne)]

lemma nonBlank_nonBlank (value : Option String) : nonBlank (nonBlank value) = nonBlank value := by
  unfold nonBlank
  rw [Option.filter_filter]
  simp only [Bool.and_self]

lemma amountParam_build (haddress : '?' ∉ address.toList) :
    amountParam (buildQrText address amount memo message) = (nonBlank amount).map utf8Bytes := by
  obtain ⟨hand, hparams⟩ := readParams_query amount memo message
  have hread : readQrText (buildQrText address amount memo message) = some (address,
      givenField "amount" amount ++ givenField "memo" memo ++ givenField "message" message) :=
    readQrText_of_params haddress hand hparams
  have hmemo : ∀ l : List (String × Bytes), (givenField "memo" memo ++ l).lookup "amount" =
      l.lookup "amount" := by
    intro l
    unfold givenField
    cases nonBlank memo <;> rfl
  have hmessage : (givenField "message" message).lookup "amount" = none := by
    unfold givenField
    cases nonBlank message <;> rfl
  rw [amountParam, hread, Option.bind_some, List.append_assoc]
  unfold givenField at hmemo hmessage ⊢
  rcases nonBlank amount with _ | a
  · simp only [Option.map_none, Option.toList_none, List.nil_append]
    rw [hmemo, hmessage]
  · rfl

/-- The page reads the total back from its text. -/
lemma parse_totalReceived {settings : LinkSettings} {record : PaymentLinkRecord}
    (h0 : 0 ≤ record.currentTotalZat) (hmax : record.currentTotalZat ≤ i64Max) :
    parseZecAmount (statusOf settings record).totalReceived =
      some record.currentTotalZat.toNat := by
  have htext : (statusOf settings record).totalReceived =
      formatZatAsZec record.currentTotalZat.toNat := by
    rw [Int.toNat_of_nonneg h0]
    rfl
  rw [htext]
  exact parseZecAmount_format (by omega)

/-- So it shows what the status route would ask for, where that is not the amount itself. -/
lemma remainingShown_statusOf {settings : LinkSettings} {record : PaymentLinkRecord}
    (h0 : 0 ≤ record.currentTotalZat) (hmax : record.currentTotalZat ≤ i64Max) :
    remainingShown (statusOf settings record) =
      (remainingAmount (nonBlank record.requestedAmount) record.currentTotalZat).filter
        fun rest => some rest ≠ nonBlank record.requestedAmount := by
  have hamount : (statusOf settings record).amount = nonBlank record.requestedAmount := rfl
  simp only [remainingShown, parse_totalReceived h0 hmax, Option.getD_some,
    Int.toNat_of_nonneg h0, hamount]
  rcases nonBlank record.requestedAmount with _ | amount
  · rfl
  · have hne : (fun rest => decide (rest ≠ amount)) =
        fun rest => decide (some rest ≠ some amount) :=
      funext fun rest => decide_eq_decide.mpr (by simp)
    rw [Option.bind_some, hne]

/-- **The payer is asked for exactly what is owed**, by the payment URI and by every page that is
rendered. -/
theorem payer_asked_exactly (settings : LinkSettings) (record : PaymentLinkRecord)
    (h0 : 0 ≤ record.currentTotalZat) (hmax : record.currentTotalZat ≤ i64Max) :
    let response := statusOf settings record
    let total := record.currentTotalZat.toNat
    let owed := OwedPart record.requestedAmount record.currentTotalZat
    let requests := fun amount => response.qrText =
        buildQrText record.unifiedAddress amount record.requestMemo record.requestMessage ∧
      ('?' ∉ record.unifiedAddress.toList →
        amountParam response.qrText = amount.map utf8Bytes)
    (response.status = .partiallyPaid ↔ ∃ r, owed r) ∧
    (∀ r, owed r → ∃ asked rest,
      requests (some asked) ∧ parseZecAmount asked = some (r - total) ∧
      PageAsks response (some rest) ∧ parseZecAmount rest = some (r - total)) ∧
    ((¬∃ r, owed r) →
      requests (nonBlank record.requestedAmount) ∧ PageAsks response none) ∧
    (response.status = .paid ↔
      ∃ r, record.requestedAmount.bind parseZecAmount = some r ∧ r ≤ total) ∧
    parseZecAmount response.totalReceived = some total := by
  intro response total owed requests
  have hreceived : parseZecAmount response.totalReceived = some total :=
    parse_totalReceived h0 hmax
  have howed : ∀ r, owed r ↔
      OwedPart (nonBlank record.requestedAmount) record.currentTotalZat r := fun r => by
    simp only [owed, OwedPart, parse_nonBlank]
  have hshown : remainingShown response = _ := remainingShown_statusOf h0 hmax
  have hpage : ∀ rest, remainingShown response = rest → PageAsks response rest := by
    rintro _ rfl
    exact pageAsks_remainingShown response
  have hrequests : ∀ asked, nonBlank asked = asked →
      remainingAmount (nonBlank record.requestedAmount) record.currentTotalZat = asked →
        requests asked := by
    intro asked hblank hasked
    have hqr : response.qrText = buildQrText record.unifiedAddress asked record.requestMemo
        record.requestMessage := by
      simp only [response, statusOf, hasked]
    refine ⟨hqr, fun haddress => ?_⟩
    rw [hqr, amountParam_build haddress, hblank]
  refine ⟨?_, fun r hr => ?_, fun hnone => ?_, ?_, hreceived⟩
  · simp only [howed]
    exact status_partiallyPaid_iff
  · obtain ⟨rest, hrest, hparse, hne⟩ := remaining_of_owed ((howed r).mp hr)
    refine ⟨rest, rest, hrequests _ (nonBlank_of_parse hparse) hrest, hparse, hpage _ ?_, hparse⟩
    rw [hshown, hrest, Option.filter_some, if_pos (by simpa using hne.symm)]
  · simp only [howed] at hnone
    have hsame := remaining_of_not_owed hnone
    refine ⟨hrequests _ (nonBlank_nonBlank _) hsame, hpage _ ?_⟩
    rw [hshown, hsame]
    rcases nonBlank record.requestedAmount with _ | amount
    · rfl
    · rw [Option.filter_some, if_neg (by simp)]
  · have hpaid := status_paid_iff (nonBlank record.requestedAmount) record.currentTotalZat
    rw [parse_nonBlank] at hpaid
    refine hpaid.trans (exists_congr fun r => and_congr_right fun _ => ?_)
    omega

/-- Two of five zatoshis have arrived: the URI asks for three, and so does the page. -/
theorem payer_asked_exactly_for_the_rest :
    let record : PaymentLinkRecord :=
      { paymentId := "p", unifiedAddress := "u1", requestLabel := none, requestMemo := none,
        requestMessage := none, requestedAmount := some ".00000005", returnUrl := none,
        createdAt := "t", currentTotalZat := 2, stateVersion := 1,
        receivedByConfirmationsZat := none }
    let response := statusOf ⟨none, none⟩ record
    let render := renderPayPage (fun _ => .ok "<svg></svg>") (fun _ => .ok "\x7b\x7d")
    response.status = .partiallyPaid ∧
    ∃ asked rest, response.qrText = buildQrText "u1" (some asked) none none ∧
      parseZecAmount asked = some 3 ∧ amountParam response.qrText = some (utf8Bytes asked) ∧
      parseZecAmount rest = some 3 ∧ ∃ page before after, render response = .ok page ∧
        page = before ++ escapeHtml rest ++ "</span> ZEC remaining" ++ after := by
  intro record response render
  have howed : OwedPart (some ".00000005") 2 5 := ⟨by decide +kernel, by decide, by decide⟩
  obtain ⟨hstatus, hrest, -⟩ := payer_asked_exactly ⟨none, none⟩ record (by decide) (by decide)
  obtain ⟨asked, rest, ⟨hqr, hparam⟩, hasked, hpage, hparse⟩ := hrest 5 howed
  obtain ⟨page, hrender, -, -, hshown⟩ := hpage (fun _ => .ok "<svg></svg>")
    (fun _ => .ok "\x7b\x7d") "\x7b\x7d" rfl
  obtain ⟨before, after, htext⟩ := hshown rest rfl
  exact ⟨hstatus.mpr ⟨5, howed⟩, asked, rest, hqr, hasked, hparam (by decide), hparse, page, before,
    after, hrender, htext⟩

end ZcashPayment
