import Mathlib.Data.List.Induction
import ZcashPayment.Identity

/-!
Starts of the service, side by side.

Once an identity is stored, every call compares against it, and no statement changes what is
compared. What a call that returned found equal therefore stays equal. The one statement that
can store something else than what it will be compared with is the first insert: it takes the
configured birthday without comparing it with the wallet database's.
-/

namespace ZcashPayment

variable {wallet : Option WalletDbIdentity} {config : StartupConfig} {now : Timestamp}
  {x y identity : WalletIdentity} {stored : Option WalletIdentity} {c : Check} {s : Startups}
  {act : StartupAct} {acts : List StartupAct}

/-- What is never changed of a stored identity. -/
structure SameIdentity (x y : WalletIdentity) : Prop where
  uivk : y.canonicalUivk = x.canonicalUivk
  network : y.network = x.network
  birthday : y.birthdayHeight = x.birthdayHeight

lemma SameIdentity.refl (x : WalletIdentity) : SameIdentity x x := ⟨rfl, rfl, rfl⟩

lemma SameIdentity.trans {z : WalletIdentity} (h : SameIdentity x y) (h' : SameIdentity y z) :
    SameIdentity x z :=
  ⟨h'.uivk.trans h.uivk, h'.network.trans h.network, h'.birthday.trans h.birthday⟩

lemma touched_same (now : Timestamp) (x : WalletIdentity) : SameIdentity x (touched now x) :=
  ⟨rfl, rfl, rfl⟩

/-- The identity is the wallet database's, where that has an account. -/
structure WalletAgrees (wallet : Option WalletDbIdentity) (x : WalletIdentity) : Prop where
  uivk : ∀ account ∈ wallet, x.canonicalUivk = account.uivk
  birthday : ∀ account ∈ wallet, x.birthdayHeight = account.birthdayHeight

/-- The identity is the one the configuration names, as far as it names one. -/
structure ConfigAgrees (config : StartupConfig) (x : WalletIdentity) : Prop where
  uivk : ∀ uivk ∈ config.startupUivk, x.canonicalUivk = uivk
  network : x.network = config.network
  birthday : ∀ height ∈ config.birthdayHeight, x.birthdayHeight = height

lemma WalletAgrees.same (h : WalletAgrees wallet x) (hxy : SameIdentity x y) :
    WalletAgrees wallet y :=
  ⟨fun a ha => hxy.uivk.trans (h.uivk a ha), fun a ha => hxy.birthday.trans (h.birthday a ha)⟩

lemma ConfigAgrees.same (h : ConfigAgrees config x) (hxy : SameIdentity x y) :
    ConfigAgrees config y :=
  ⟨fun a ha => hxy.uivk.trans (h.uivk a ha), hxy.network.trans h.network,
    fun a ha => hxy.birthday.trans (h.birthday a ha)⟩

/-! ### The comparisons -/

/-- **A later start** succeeds exactly when the stored identity is the configuration's and the
wallet database's. -/
lemma checkExisting_ok_iff :
    checkExisting config wallet x = .ok () ↔ ConfigAgrees config x ∧ WalletAgrees wallet x := by
  have hw : ∀ (p : WalletDbIdentity → Prop) [DecidablePred p],
      wallet.any (fun a => decide (p a)) = true ↔ ∃ a ∈ wallet, p a := by
    intro p _
    rcases wallet with _ | a <;> simp
  have hu : config.startupUivk.any (fun u => u ≠ x.canonicalUivk) = true ↔
      ∃ u ∈ config.startupUivk, u ≠ x.canonicalUivk := by
    rcases config.startupUivk with _ | u <;> simp
  have hb : config.birthdayHeight.any (fun h => h ≠ x.birthdayHeight) = true ↔
      ∃ h ∈ config.birthdayHeight, h ≠ x.birthdayHeight := by
    rcases config.birthdayHeight with _ | h <;> simp
  unfold checkExisting
  simp only [hw, hu, hb]
  constructor
  · intro h
    split_ifs at h with h1 h2 h3 h4 h5
    push Not at h1 h2 h3 h4 h5
    exact ⟨⟨fun u hu => (h3 u hu).symm, h4, fun b hb => (h5 b hb).symm⟩,
      fun a ha => (h1 a ha).symm, fun a ha => (h2 a ha).symm⟩
  · rintro ⟨hc, hwa⟩
    rw [if_neg, if_neg, if_neg, if_neg, if_neg]
    · push Not
      exact fun b hb => (hc.birthday b hb).symm
    · push Not
      exact hc.network
    · push Not
      exact fun u hu => (hc.uivk u hu).symm
    · push Not
      exact fun a ha => (hwa.birthday a ha).symm
    · push Not
      exact fun a ha => (hwa.uivk a ha).symm

/-- The configured birthday is not another one than the wallet database's. -/
def BirthdaysAgree (config : StartupConfig) (wallet : Option WalletDbIdentity) : Prop :=
  ∀ height ∈ config.birthdayHeight, ∀ account ∈ wallet, height = account.birthdayHeight

/-- **What a first start inserts** is the configuration's, and has the wallet database's key. -/
lemma firstIdentity_ok (h : firstIdentity config wallet now = .ok x) :
    ConfigAgrees config x ∧ (∀ account ∈ wallet, x.canonicalUivk = account.uivk) ∧
      (BirthdaysAgree config wallet → WalletAgrees wallet x) := by
  unfold firstIdentity at h
  split_ifs at h with h1
  rcases hu : config.startupUivk.or (wallet.map (·.uivk)) with _ | uivk
  · rw [hu] at h
    cases h
  rcases hb : config.birthdayHeight.or (wallet.map (·.birthdayHeight)) with _ | birthday
  · rw [hu, hb] at h
    cases h
  rw [hu, hb] at h
  cases h
  have huivk : ∀ account ∈ wallet, uivk = account.uivk := by
    rintro account rfl
    rcases hcu : config.startupUivk with _ | u
    · rw [hcu] at hu
      exact (Option.some.inj hu).symm
    · rw [hcu] at hu h1
      cases hu
      simpa using h1
  refine ⟨⟨?_, rfl, ?_⟩, huivk, fun hagree => ⟨huivk, ?_⟩⟩
  · intro u hcu
    rw [Option.mem_def.mp hcu] at hu
    exact (Option.some.inj hu).symm
  · intro b hcb
    rw [Option.mem_def.mp hcb] at hb
    exact (Option.some.inj hb).symm
  · rintro account rfl
    rcases hcb : config.birthdayHeight with _ | b
    · rw [hcb] at hb
      exact (Option.some.inj hb).symm
    · rw [hcb] at hb
      cases hb
      exact hagree birthday hcb account rfl

lemma checkRace_ok {z : WalletIdentity} (h : checkRace x identity = .ok z) :
    z = x ∧ SameIdentity identity x := by
  unfold checkRace at h
  split_ifs at h with hne
  push Not at hne
  cases h
  exact ⟨rfl, hne.1, hne.2.1, hne.2.2.1⟩

/-! ### One step -/

/-- What a call relies on, by where it is. -/
def Check.Sound (wallet : Option WalletDbIdentity) (stored : Option WalletIdentity) (c : Check) :
    Prop :=
  match c.phase with
  | .start => True
  | .touching => ∃ x, stored = some x ∧ ConfigAgrees c.config x
  | .reloading => ∃ x, stored = some x ∧ ConfigAgrees c.config x
  | .inserting identity => firstIdentity c.config wallet c.now = .ok identity
  | .comparing identity => stored.isSome ∧ firstIdentity c.config wallet c.now = .ok identity
  | .done (.ok identity) => ∃ x, stored = some x ∧ ConfigAgrees c.config x ∧ SameIdentity identity x
  | .done (.error _) => True

/-- What is stored stays what it is, but for the time it was validated at. -/
def Kept (stored stored' : Option WalletIdentity) : Prop :=
  ∀ x, stored = some x → ∃ y, stored' = some y ∧ SameIdentity x y

lemma Kept.refl (stored : Option WalletIdentity) : Kept stored stored :=
  fun x hx => ⟨x, hx, SameIdentity.refl x⟩

lemma Check.Sound.kept {stored' : Option WalletIdentity} (h : c.Sound wallet stored)
    (hk : Kept stored stored') : c.Sound wallet stored' := by
  unfold Check.Sound at *
  rcases hp : c.phase with _ | _ | _ | identity | identity | (e | identity) <;>
    simp only [hp] at h ⊢
  · obtain ⟨x, hx, hc⟩ := h
    obtain ⟨y, hy, hxy⟩ := hk x hx
    exact ⟨y, hy, hc.same hxy⟩
  · obtain ⟨x, hx, hc⟩ := h
    obtain ⟨y, hy, hxy⟩ := hk x hx
    exact ⟨y, hy, hc.same hxy⟩
  · exact h
  · obtain ⟨x, hx⟩ := Option.isSome_iff_exists.mp h.1
    obtain ⟨y, hy, -⟩ := hk x hx
    exact ⟨by rw [hy]; rfl, h.2⟩
  · obtain ⟨x, hx, hc, hsame⟩ := h
    obtain ⟨y, hy, hxy⟩ := hk x hx
    exact ⟨y, hy, hc.same hxy, hsame.trans hxy⟩

lemma Check.step_kept (wallet : Option WalletDbIdentity) (stored : Option WalletIdentity)
    (c : Check) : Kept stored (c.step wallet stored).1 := by
  rintro x rfl
  unfold Check.step
  rcases c.phase with _ | _ | _ | identity | identity | result
  · exact ⟨x, rfl, SameIdentity.refl x⟩
  · exact ⟨touched c.now x, rfl, touched_same c.now x⟩
  all_goals exact ⟨x, rfl, SameIdentity.refl x⟩

/-- Where a call inserts, its birthday is not another one than the wallet database's. -/
def Check.InsertAgrees (wallet : Option WalletDbIdentity) (stored : Option WalletIdentity)
    (c : Check) : Prop :=
  ∀ identity, c.phase = .inserting identity → stored = none → BirthdaysAgree c.config wallet

/-- **One step of one call** stores nothing but the wallet database's identity, and returns
only what is stored. -/
lemma Check.step_sound (h : c.Sound wallet stored) (hw : ∀ x ∈ stored, WalletAgrees wallet x)
    (hi : c.InsertAgrees wallet stored) :
    ({ c with phase := (c.step wallet stored).2 } : Check).Sound wallet (c.step wallet stored).1 ∧
      ∀ x ∈ (c.step wallet stored).1, WalletAgrees wallet x := by
  unfold Check.Sound at *
  unfold Check.step
  rcases hp : c.phase with _ | _ | _ | identity | identity | (e | identity) <;>
    simp only [hp] at h ⊢
  · -- The first read.
    rcases stored with _ | x
    · rcases firstIdentity c.config wallet c.now with e | identity
      · exact ⟨trivial, hw⟩
      · exact ⟨rfl, hw⟩
    · dsimp only
      rcases hc : checkExisting c.config wallet x with e | ⟨⟩
      · exact ⟨trivial, hw⟩
      · exact ⟨⟨x, rfl, (checkExisting_ok_iff.mp hc).1⟩, hw⟩
  · obtain ⟨x, rfl, hc⟩ := h
    refine ⟨⟨_, rfl, hc.same (touched_same c.now x)⟩, ?_⟩
    rintro _ ⟨rfl⟩
    exact (hw x rfl).same (touched_same c.now x)
  · obtain ⟨x, rfl, hc⟩ := h
    exact ⟨⟨x, rfl, hc, SameIdentity.refl x⟩, hw⟩
  · rcases stored with _ | x
    · obtain ⟨hc, -, hwallet⟩ := firstIdentity_ok h
      refine ⟨⟨identity, rfl, hc, SameIdentity.refl identity⟩, ?_⟩
      rintro _ ⟨rfl⟩
      exact hwallet (hi identity hp rfl)
    · exact ⟨⟨rfl, h⟩, hw⟩
  · obtain ⟨hs, hf⟩ := h
    obtain ⟨x, rfl⟩ := Option.isSome_iff_exists.mp hs
    dsimp only
    rcases hr : checkRace x identity with e | z
    · exact ⟨trivial, hw⟩
    · obtain ⟨rfl, hsame⟩ := checkRace_ok hr
      exact ⟨⟨z, rfl, (firstIdentity_ok hf).1.same hsame, SameIdentity.refl z⟩, hw⟩
  · exact ⟨trivial, hw⟩
  · exact ⟨h, hw⟩

/-! ### Runs -/

/-- What holds of all calls between two steps. -/
structure Startups.Sound (wallet : Option WalletDbIdentity) (s : Startups) : Prop where
  checks : ∀ c ∈ s.checks, c.Sound wallet s.stored
  wallet : ∀ x ∈ s.stored, WalletAgrees wallet x

def Startups.InsertAgrees (wallet : Option WalletDbIdentity) (s : Startups) :
    StartupAct → Prop
  | .call _ _ => True
  | .step i => ∀ c ∈ s.checks[i]?, c.InsertAgrees wallet s.stored

lemma Startups.act_kept (wallet : Option WalletDbIdentity) (s : Startups) (act : StartupAct) :
    Kept s.stored (s.act wallet act).stored := by
  rcases act with ⟨config, now⟩ | i
  · exact Kept.refl s.stored
  · unfold Startups.act
    rcases hc : s.checks[i]? with _ | c <;> simp only [hc]
    · exact Kept.refl s.stored
    · exact c.step_kept wallet s.stored

lemma Startups.run_kept (wallet : Option WalletDbIdentity) (s : Startups)
    (acts : List StartupAct) : Kept s.stored (s.run wallet acts).stored := by
  induction acts generalizing s with
  | nil => exact Kept.refl s.stored
  | cons act acts ih =>
    intro x hx
    obtain ⟨y, hy, hxy⟩ := s.act_kept wallet act x hx
    obtain ⟨z, hz, hyz⟩ := ih (s.act wallet act) y hy
    exact ⟨z, hz, hxy.trans hyz⟩

lemma Startups.Sound.next (h : s.Sound wallet) (hi : s.InsertAgrees wallet act) :
    (s.act wallet act).Sound wallet := by
  rcases act with ⟨config, now⟩ | i
  · refine ⟨fun c hc => ?_, h.wallet⟩
    rcases List.mem_append.mp hc with hc | hc
    · exact h.checks c hc
    · rw [List.mem_singleton.mp hc]
      trivial
  · have hkept := s.act_kept wallet (.step i)
    unfold Startups.act at *
    rcases hc : s.checks[i]? with _ | c <;> simp only [hc] at hkept ⊢
    · exact h
    · obtain ⟨hsound, hwallet⟩ := Check.step_sound (h.checks c (List.mem_of_getElem? hc)) h.wallet
        (hi c hc)
      refine ⟨fun c' hc' => ?_, hwallet⟩
      rcases List.mem_or_eq_of_mem_set hc' with hc' | rfl
      · exact (h.checks c' hc').kept hkept
      · exact hsound

lemma Startups.run_append (acts : List StartupAct) (act : StartupAct) :
    s.run wallet (acts ++ [act]) = (s.run wallet acts).act wallet act := by
  simp [Startups.run]

lemma Startups.Sound.run (h : s.Sound wallet)
    (hi : ∀ pre act, pre ++ [act] <+: acts → (s.run wallet pre).InsertAgrees wallet act) :
    (s.run wallet acts).Sound wallet := by
  induction acts using List.reverseRecOn with
  | nil => exact h
  | append_singleton acts act ih =>
    rw [Startups.run_append]
    refine (ih fun pre a hpre => hi pre a (hpre.trans (List.prefix_append _ _))).next ?_
    exact hi acts act (List.prefix_refl _)

/-- A call that was made is in the list with the configuration it was made with. -/
lemma Startups.run_config {p : StartupConfig → Prop} (h0 : ∀ c ∈ s.checks, p c.config)
    (h : ∀ config now, .call config now ∈ acts → p config) :
    ∀ c ∈ (s.run wallet acts).checks, p c.config := by
  induction acts generalizing s with
  | nil => exact h0
  | cons act acts ih =>
    refine ih (fun c hc => ?_) fun config now hmem => h config now (List.mem_cons_of_mem _ hmem)
    rcases act with ⟨config, now⟩ | i
    · rcases List.mem_append.mp hc with hc | hc
      · exact h0 c hc
      · rw [List.mem_singleton.mp hc]
        exact h config now List.mem_cons_self
    · unfold Startups.act at hc
      rcases hi : s.checks[i]? with _ | ci <;> simp only [hi] at hc
      · exact h0 c hc
      · rcases List.mem_or_eq_of_mem_set hc with hc | rfl
        · exact h0 c hc
        · exact h0 ci (List.mem_of_getElem? hi)

/-- Where every call agrees with the wallet database, the one that inserts does. -/
lemma Startups.insertAgrees_of_calls (h0 : ∀ c ∈ s.checks, BirthdaysAgree c.config wallet)
    (h : ∀ config now, .call config now ∈ acts → BirthdaysAgree config wallet)
    (pre : List StartupAct) (act : StartupAct) (hpre : pre ++ [act] <+: acts) :
    (s.run wallet pre).InsertAgrees wallet act := by
  have hsub : ∀ a ∈ pre, a ∈ acts := fun a ha =>
    hpre.subset (List.mem_append_left _ ha)
  have hall : ∀ c ∈ (s.run wallet pre).checks, BirthdaysAgree c.config wallet :=
    Startups.run_config h0 fun config now hmem => h config now (hsub _ hmem)
  rcases act with ⟨config, now⟩ | i
  · trivial
  · intro c hc identity _ _
    exact hall c (List.mem_of_getElem? hc)

/-! ### Calls that repeat an earlier one -/

/-- A call that cannot fail: its configuration is the stored identity's. -/
def Check.Repeats (config : StartupConfig) (c : Check) : Prop :=
  c.config = config → match c.phase with
    | .start | .touching | .reloading | .done (.ok _) => True
    | _ => False

lemma Check.Repeats.step (h : c.Repeats config) (hc : ConfigAgrees config x)
    (hw : WalletAgrees wallet x) :
    ({ c with phase := (c.step wallet (some x)).2 } : Check).Repeats config := by
  intro heq
  have h := h heq
  have hok : checkExisting c.config wallet x = .ok () :=
    checkExisting_ok_iff.mpr ⟨(show c.config = config from heq) ▸ hc, hw⟩
  unfold Check.step
  rcases hp : c.phase with _ | _ | _ | identity | identity | (e | identity) <;>
    simp only [hp, hok] at h ⊢

/-- The calls made after `n` with the configuration of a call that has succeeded. -/
lemma Startups.repeats {n : ℕ} (hx : s.stored = some x) (hc : ConfigAgrees config x)
    (hw : WalletAgrees wallet x) (hr : ∀ i c, n ≤ i → s.checks[i]? = some c → c.Repeats config)
    (acts : List StartupAct) :
    ∀ i c, n ≤ i → (s.run wallet acts).checks[i]? = some c → c.Repeats config := by
  induction acts generalizing s x with
  | nil => exact hr
  | cons act acts ih =>
    obtain ⟨y, hy, hxy⟩ := s.act_kept wallet act x hx
    refine ih hy (hc.same hxy) (hw.same hxy) fun i c hi hci => ?_
    rcases act with ⟨config', now⟩ | j
    · rcases Nat.lt_or_ge i s.checks.length with hlt | hge
      · rw [Startups.act, List.getElem?_append_left hlt] at hci
        exact hr i c hi hci
      · rw [Startups.act, List.getElem?_append_right hge] at hci
        rw [(List.mem_singleton.mp (List.mem_of_getElem? hci))]
        exact fun _ => trivial
    · unfold Startups.act at hci
      rcases hj : s.checks[j]? with _ | cj <;> simp only [hj] at hci
      · exact hr i c hi hci
      · rcases eq_or_ne j i with rfl | hne
        · have hlt : j < s.checks.length := (List.getElem?_eq_some_iff.mp hj).1
          rw [List.getElem?_set_self hlt] at hci
          cases hci
          rw [hx]
          exact (hr j cj hi hj).step hc hw
        · rw [List.getElem?_set_ne hne] at hci
          exact hr i c hi hci

/-! ### The identity -/

/-- **The identity is stable and honest.** In any interleaving of calls in which the call that
inserts has no other birthday than the wallet database: what is stored is never changed, a
call that returns has found it equal to its configuration and to the wallet database, and a
later call with that configuration never fails. -/
theorem identity_stable_and_honest (wallet : Option WalletDbIdentity) (acts : List StartupAct)
    (hinsert : ∀ pre act, pre ++ [act] <+: acts →
      (Startups.run wallet ⟨none, []⟩ pre).InsertAgrees wallet act) :
    let s := Startups.run wallet ⟨none, []⟩ acts
    (∀ x, s.stored = some x → ∀ more, ∃ y, (s.run wallet more).stored = some y ∧
      SameIdentity x y) ∧
    ∀ c ∈ s.checks, ∀ identity, c.phase = .done (.ok identity) →
      (∃ x, s.stored = some x ∧ ConfigAgrees c.config x ∧ WalletAgrees wallet x ∧
        SameIdentity identity x) ∧
      (∀ now, ∃ r, ensureWalletIdentity c.config wallet now s.stored = .ok r) ∧
      ∀ more i c', s.checks.length ≤ i → (s.run wallet more).checks[i]? = some c' →
        c'.config = c.config → ∀ e, c'.phase ≠ .done (.error e) := by
  intro s
  have hsound : s.Sound wallet :=
    Startups.Sound.run ⟨fun c hc => absurd hc List.not_mem_nil, by simp⟩ hinsert
  refine ⟨fun x hx more => s.run_kept wallet more x hx, fun c hc identity hp => ?_⟩
  have hdone := hsound.checks c hc
  simp only [Check.Sound, hp] at hdone
  obtain ⟨x, hx, hagrees, hsame⟩ := hdone
  have hwallet := hsound.wallet x hx
  refine ⟨⟨x, hx, hagrees, hwallet, hsame⟩, fun now => ?_, fun more i c' hi hc' heq e he => ?_⟩
  · simp only [ensureWalletIdentity, hx, checkExisting_ok_iff.mpr ⟨hagrees, hwallet⟩]
    exact ⟨_, rfl⟩
  · have hr := Startups.repeats hx hagrees hwallet (n := s.checks.length)
      (fun j cj hj hcj => ?_) more i c' hi hc' heq
    · rw [he] at hr
      exact hr
    · rw [List.getElem?_eq_none hj] at hcj
      cases hcj

def testStartup : StartupConfig where
  catchUpThresholdBlocks := 10
  catchUpBatchSize := 100
  webhookReportConfirmations := 0
  finalityConfirmations := 2
  requiredConfirmations := some 2
  network := "mainnet"
  startupUivk := some "uivk1"
  birthdayHeight := some 5
  walletDbPath := "wallet.db"
  lightwalletdUrl := none
  devSimulatedPayments := false
  publicBaseUrl := none
  returnUrlAllowedOrigins := []

/-- Two first starts race; the slower one compares with the row of the faster one. -/
theorem identity_stable_for_racing_starts :
    let acts : List StartupAct := [.call testStartup "t1", .call testStartup "t2",
      .step 0, .step 1, .step 0, .step 1, .step 1]
    let s := Startups.run (some ⟨"uivk1", 5⟩) ⟨none, []⟩ acts
    s.checks.length = 2 ∧ ∀ c ∈ s.checks, ∃ identity, c.phase = .done (.ok identity) ∧
      identity.initializedAt = "t1" ∧
      ∀ now, ∃ r, ensureWalletIdentity c.config (some ⟨"uivk1", 5⟩) now s.stored = .ok r := by
  intro acts s
  have hcalls : ∀ config now, .call config now ∈ acts →
      BirthdaysAgree config (some ⟨"uivk1", 5⟩) := by
    intro config now hmem
    have : config = testStartup := by
      simp only [acts, List.mem_cons, List.not_mem_nil, or_false, StartupAct.call.injEq,
        reduceCtorEq, or_self] at hmem
      rcases hmem with h | h <;> exact h.1
    subst this
    rintro _ ⟨rfl⟩ _ ⟨rfl⟩
    rfl
  have hagree := Startups.insertAgrees_of_calls
    (show ∀ c ∈ (Startups.mk none []).checks, BirthdaysAgree c.config _ by simp) hcalls
  have hprop := (identity_stable_and_honest (some ⟨"uivk1", 5⟩) acts hagree).2
  refine ⟨rfl, fun c hc => ?_⟩
  have hdone : ∃ identity, c.phase = .done (.ok identity) ∧ identity.initializedAt = "t1" := by
    rcases List.mem_pair.mp (show c ∈ [_, _] from hc) with rfl | rfl
    · exact ⟨_, rfl, rfl⟩
    · exact ⟨_, rfl, rfl⟩
  obtain ⟨identity, hp, hinit⟩ := hdone
  exact ⟨identity, hp, hinit, (hprop c hc identity hp).2.1⟩

/-- The wallet database's account has birthday 7, the configuration says 5: the first start
stores 5, and every later one fails. -/
theorem first_start_takes_another_birthday :
    let s := Startups.run (some ⟨"uivk1", 7⟩) ⟨none, []⟩
      [.call testStartup "t1", .step 0, .step 0]
    (∃ c ∈ s.checks, ∃ identity, c.phase = .done (.ok identity) ∧ identity.birthdayHeight = 5) ∧
      s.stored.map (·.birthdayHeight) = some 5 ∧
      (ensureWalletIdentity testStartup (some ⟨"uivk1", 7⟩) "t2" s.stored).toOption.isNone ∧
      ∃ e, ((s.run (some ⟨"uivk1", 7⟩) [.call testStartup "t2", .step 1]).checks[1]?).map
        (·.phase) = some (.done (.error e)) := by
  refine ⟨⟨_, List.mem_singleton_self _, _, rfl, rfl⟩, rfl, rfl, _, rfl⟩

end ZcashPayment
