import Mathlib.Data.Nat.Find
import SoftAp.Proofs.ConfigLines

/-!
# Why a plan is refused

There are five kinds of causes for which no configuration is generated.  A plan is refused exactly
if one of them applies, and if several do, for the one that is looked for first.  What is not part
of a cause, such as the channel, its width or the other instance of an OWE pair, never leads to a
refusal.
-/

namespace SoftAp.Config

/-- A cause for which a plan is refused applies to it. -/
inductive Applies (host : Host) (options : Options) (versions : Versions) (plan : InstancePlan) :
    Refusal → Prop
  | longName (long : 32 < plan.network.ssid.length) :
      Applies host options versions plan (.ssidTooLong plan.network.ssid.length)
  | passphrase (uses : plan.network.security ∈ [.wpa, .wpa2, .saeTransition])
      (outside : plan.network.passphrase.utf8ByteSize < 8 ∨
        63 < plan.network.passphrase.utf8ByteSize) :
      Applies host options versions plan
        (.invalidPassphrase plan.network.security plan.network.passphrase.utf8ByteSize)
  | noPassword (sae : plan.network.security = .sae)
      (empty : plan.network.passphrase.utf8ByteSize = 0) :
      Applies host options versions plan
        (.invalidPassphrase plan.network.security plan.network.passphrase.utf8ByteSize)
  | noBand (none : ∀ band, plan.channel.bands.has band = false) :
      Applies host options versions plan (.invalidBands plan.channel.bands)
  | noAddress {reason : String} (be : plan.capabilities.be = true)
      (below : plan.channel.bands.has .ghz60 = false)
      (service : 2 ≤ versions.service) (client : 2 ≤ versions.client)
      (unknown : host.macAddress plan.engineInterface = .error reason) :
      Applies host options versions plan (.noMacAddress plan.engineInterface reason)
  | noOverlay {reason : String} (unmetered : plan.network.metered = false)
      (unread : host.readOverlay options.overlayPath = .error reason) :
      Applies host options versions plan (.unreadableOverlay options.overlayPath reason)

/-- The place of a cause in the order in which causes are looked for.  That a code stands for no
protection is found before there is a plan. -/
def Refusal.rank : Refusal → Nat
  | .ssidTooLong _ => 0
  | .invalidPassphrase _ _ => 1
  | .invalidBands _ => 2
  | .noMacAddress _ _ => 3
  | .unreadableOverlay _ _ => 4
  | .unknownSecurity _ => 5

/-! ## Checks in order -/

section

variable {α β : Type} {cause : Refusal → Prop} {rank : Nat}

/-- A check refuses exactly for the causes of one rank. -/
def Decides (cause : Refusal → Prop) (rank : Nat) (check : Except Refusal α) : Prop :=
  ∀ refusal, check = .error refusal ↔ cause refusal ∧ refusal.rank = rank

/-- Checks refuse exactly for the first of the causes that are of a rank or behind it. -/
def RefusesFirst (cause : Refusal → Prop) (rank : Nat) (checks : Except Refusal α) : Prop :=
  ∀ refusal, checks = .error refusal ↔
    cause refusal ∧ rank ≤ refusal.rank ∧
      ∀ other, cause other → rank ≤ other.rank → refusal.rank ≤ other.rank

/-- A check in front of others adds the causes of its rank. -/
theorem RefusesFirst.bind {check : Except Refusal α} {next : α → Except Refusal β}
    (h : Decides cause rank check) (hNext : ∀ value, RefusesFirst cause (rank + 1) (next value)) :
    RefusesFirst cause rank (check >>= next) := by
  intro refusal
  cases hCheck : check with
  | error first =>
      obtain ⟨hFirst, hRank⟩ := (h first).mp hCheck
      show (Except.error first : Except Refusal β) = .error refusal ↔ _
      constructor
      · intro hSame
        obtain rfl := Except.error.inj hSame
        exact ⟨hFirst, (Nat.le_of_eq hRank.symm), fun other _ hOther => hRank ▸ hOther⟩
      · rintro ⟨hCause, hFrom, hLeast⟩
        -- the cause cannot be of a later rank, and the check refuses for one cause only
        have hSame : refusal.rank = rank :=
          Nat.le_antisymm (hRank ▸ hLeast first hFirst (Nat.le_of_eq hRank.symm)) hFrom
        have hRefused := (h refusal).mpr ⟨hCause, hSame⟩
        rw [hCheck] at hRefused
        rw [Except.error.inj hRefused]
  | ok value =>
      have hNone : ∀ other, cause other → other.rank ≠ rank := by
        intro other hOther hSame
        have hRefused := (h other).mpr ⟨hOther, hSame⟩
        rw [hCheck] at hRefused
        cases hRefused
      have hFrom : ∀ other, cause other → (rank + 1 ≤ other.rank ↔ rank ≤ other.rank) := by
        intro other hOther
        have := hNone other hOther
        omega
      show next value = .error refusal ↔ _
      rw [hNext value refusal]
      constructor
      · rintro ⟨hCause, hLe, hLeast⟩
        exact ⟨hCause, (hFrom refusal hCause).mp hLe,
          fun other hOther hRank => hLeast other hOther ((hFrom other hOther).mpr hRank)⟩
      · rintro ⟨hCause, hLe, hLeast⟩
        exact ⟨hCause, (hFrom refusal hCause).mpr hLe,
          fun other hOther hRank => hLeast other hOther ((hFrom other hOther).mp hRank)⟩

/-- Nothing is refused behind the last cause. -/
theorem refusesFirst_ok (value : α) (h : ∀ refusal, cause refusal → refusal.rank < rank) :
    RefusesFirst cause rank (.ok value) := by
  intro refusal
  constructor
  · intro hError
    cases hError
  · rintro ⟨hCause, hFrom, _⟩
    exact absurd (h refusal hCause) (Nat.not_lt.mpr hFrom)

end

/-- Of the causes that apply one is looked for first. -/
theorem exists_first_cause {cause : Refusal → Prop} {refusal : Refusal} (h : cause refusal) :
    ∃ first, cause first ∧ ∀ other, cause other → first.rank ≤ other.rank := by
  classical
  have hRank : ∃ rank first, cause first ∧ first.rank = rank := ⟨_, refusal, h, rfl⟩
  obtain ⟨first, hFirst, hSame⟩ := Nat.find_spec hRank
  refine ⟨first, hFirst, fun other hOther => ?_⟩
  rw [hSame]
  exact Nat.find_min' hRank ⟨other, hOther, rfl⟩

/-! ## The checks of a plan -/

section

variable (host : Host) (options : Options) (versions : Versions) (plan : InstancePlan)

theorem decides_checkSsid :
    Decides (Applies host options versions plan) 0 (checkSsid plan.network) := by
  intro refusal
  unfold checkSsid
  constructor
  · intro hError
    split at hError
    · next long =>
      cases hError
      exact ⟨.longName long, rfl⟩
    · cases hError
  · rintro ⟨hCause, hRank⟩
    cases hCause with
    | longName long => exact if_pos long
    | _ => cases hRank

theorem usesPsk_iff {security : Security} :
    usesPsk security = true ↔ security ∈ [.wpa, .wpa2, .saeTransition] := by
  cases security <;> simp [usesPsk]

theorem decides_checkPassphrase :
    Decides (Applies host options versions plan) 1 (checkPassphrase plan.network) := by
  intro refusal
  simp only [checkPassphrase]
  constructor
  · intro hError
    split at hError
    · next hLength =>
      cases hError
      rcases hLength with ⟨uses, outside⟩ | ⟨sae, empty⟩
      · exact ⟨.passphrase (usesPsk_iff.mp uses) outside, rfl⟩
      · exact ⟨.noPassword sae empty, rfl⟩
    · cases hError
  · rintro ⟨hCause, hRank⟩
    cases hCause with
    | passphrase uses outside => exact if_pos (.inl ⟨usesPsk_iff.mpr uses, outside⟩)
    | noPassword sae empty => exact if_pos (.inr ⟨sae, empty⟩)
    | _ => cases hRank

/-- There is no hardware mode exactly for a set without bands. -/
theorem hardwareMode?_eq_none_iff {bands : Bands} :
    hardwareMode? bands = none ↔ ∀ band, bands.has band = false := by
  unfold hardwareMode?
  constructor
  · intro hNone band
    split at hNone
    · cases hNone
    · next h60 =>
      split at hNone
      · cases hNone
      · next h2 =>
        split at hNone
        · cases hNone
        · next hOther =>
          obtain ⟨h5, h6⟩ := Bool.or_eq_false_iff.mp (Bool.eq_false_iff.mpr hOther)
          cases band with
          | ghz2 => exact Bool.eq_false_iff.mpr h2
          | ghz5 => exact h5
          | ghz6 => exact h6
          | ghz60 => exact Bool.eq_false_iff.mpr h60
  · intro hNone
    simp [hNone]

theorem decides_hardwareMode :
    Decides (Applies host options versions plan) 2 (hardwareMode plan.channel.bands) := by
  intro refusal
  unfold hardwareMode
  constructor
  · intro hError
    split at hError
    · cases hError
    · next hNone =>
      cases hError
      exact ⟨.noBand (hardwareMode?_eq_none_iff.mp hNone), rfl⟩
  · rintro ⟨hCause, hRank⟩
    cases hCause with
    | noBand none => rw [hardwareMode?_eq_none_iff.mpr none]
    | _ => cases hRank

theorem decides_ehtEntries :
    Decides (Applies host options versions plan) 3 (ehtEntries host versions plan) := by
  intro refusal
  unfold ehtEntries usesEht Versions.bothAtLeast Versions.serviceAtLeast Versions.clientAtLeast
  constructor
  · intro hError
    split at hError
    · cases hError
    · next hUsed =>
      rw [Bool.not_eq_true', Bool.not_eq_false, Bool.and_eq_true, Bool.not_eq_true'] at hUsed
      split at hError
      · next hVersions =>
        rw [Bool.and_eq_true, decide_eq_true_iff, decide_eq_true_iff] at hVersions
        split at hError
        · next unknown =>
          cases hError
          exact ⟨.noAddress hUsed.1 hUsed.2 hVersions.1 hVersions.2 unknown, rfl⟩
        · cases hError
      · cases hError
  · rintro ⟨hCause, hRank⟩
    cases hCause with
    | noAddress be below service client unknown => simp [be, below, service, client, unknown]
    | _ => cases hRank

theorem decides_overlayEntries :
    Decides (Applies host options versions plan) 4 (overlayEntries host options plan.network) := by
  intro refusal
  unfold overlayEntries
  constructor
  · intro hError
    split at hError
    · cases hError
    · next unmetered =>
      split at hError
      · next unread =>
        cases hError
        exact ⟨.noOverlay (Bool.eq_false_iff.mpr unmetered) unread, rfl⟩
      · cases hError
      · cases hError
  · rintro ⟨hCause, hRank⟩
    cases hCause with
    | noOverlay unmetered unread => simp [unmetered, unread]
    | _ => cases hRank

/-- A plan is refused for the first of the causes that apply to it. -/
theorem refusesFirst_ofPlan :
    RefusesFirst (Applies host options versions plan) 0 (ofPlan host options versions plan) := by
  have hLast : ∀ refusal, Applies host options versions plan refusal → refusal.rank < 5 := by
    intro refusal hCause
    cases hCause <;> simp [Refusal.rank]
  apply RefusesFirst.bind (decides_checkSsid host options versions plan)
  intro _
  apply RefusesFirst.bind (decides_checkPassphrase host options versions plan)
  intro _
  apply RefusesFirst.bind (decides_hardwareMode host options versions plan)
  intro mode
  apply RefusesFirst.bind (decides_ehtEntries host options versions plan)
  intro eht
  apply RefusesFirst.bind (decides_overlayEntries host options versions plan)
  intro overlay
  exact refusesFirst_ok _ hLast

end

/-- Two plans agree in all that can be a cause of a refusal. -/
structure SameCauses (plan other : InstancePlan) : Prop where
  ssid : other.network.ssid.length = plan.network.ssid.length
  security : other.network.security = plan.network.security
  passphrase : other.network.passphrase.utf8ByteSize = plan.network.passphrase.utf8ByteSize
  bands : other.channel.bands = plan.channel.bands
  be : other.capabilities.be = plan.capabilities.be
  interface : other.engineInterface = plan.engineInterface
  metered : other.network.metered = plan.network.metered

section

variable {host : Host} {options : Options} {versions : Versions} {plan other : InstancePlan}
  {refusal : Refusal}

theorem SameCauses.symm (h : SameCauses plan other) : SameCauses other plan :=
  ⟨h.ssid.symm, h.security.symm, h.passphrase.symm, h.bands.symm, h.be.symm, h.interface.symm,
    h.metered.symm⟩

theorem Applies.congr (h : SameCauses plan other)
    (hCause : Applies host options versions plan refusal) :
    Applies host options versions other refusal := by
  cases hCause with
  | longName long =>
      rw [← h.ssid] at long ⊢
      exact .longName long
  | passphrase uses outside =>
      rw [← h.passphrase] at outside ⊢
      rw [← h.security] at uses ⊢
      exact .passphrase uses outside
  | noPassword sae empty =>
      rw [← h.passphrase] at empty ⊢
      rw [← h.security] at sae ⊢
      exact .noPassword sae empty
  | noBand none =>
      rw [← h.bands] at none ⊢
      exact .noBand none
  | noAddress be below service client unknown =>
      rw [← h.interface] at unknown ⊢
      exact .noAddress (h.be.trans be) (h.bands ▸ below) service client unknown
  | noOverlay unmetered unread => exact .noOverlay (h.metered.trans unmetered) unread

end

/-- A plan is refused for the first cause that applies to it, in the order network name, passphrase,
bands, hardware address, overlay, and it is configured if none does.  Nothing else is a cause: plans
that agree in what the causes are about are refused alike. -/
theorem ofPlan_eq_error_iff (host : Host) (options : Options) (versions : Versions)
    (plan : InstancePlan) :
    (∀ refusal, ofPlan host options versions plan = .error refusal ↔
      Applies host options versions plan refusal ∧
        ∀ other, Applies host options versions plan other → refusal.rank ≤ other.rank) ∧
    ((∃ config, ofPlan host options versions plan = .ok config) ↔
      ∀ refusal, ¬Applies host options versions plan refusal) ∧
    ∀ other, SameCauses plan other → ∀ refusal,
      (ofPlan host options versions other = .error refusal ↔
        ofPlan host options versions plan = .error refusal) := by
  have hFirst : ∀ plan refusal, ofPlan host options versions plan = .error refusal ↔
      Applies host options versions plan refusal ∧
        ∀ other, Applies host options versions plan other → refusal.rank ≤ other.rank := by
    intro plan refusal
    rw [refusesFirst_ofPlan host options versions plan refusal]
    simp only [Nat.zero_le, true_and, forall_const]
  refine ⟨hFirst plan, ?_, ?_⟩
  · constructor
    · rintro ⟨config, hOk⟩ refusal hCause
      obtain ⟨first, hApplies, hLeast⟩ := exists_first_cause hCause
      have hRefused := (hFirst plan first).mpr ⟨hApplies, hLeast⟩
      rw [hOk] at hRefused
      cases hRefused
    · intro hNone
      cases hPlan : ofPlan host options versions plan with
      | ok config => exact ⟨config, rfl⟩
      | error refusal => exact absurd ((hFirst plan refusal).mp hPlan).1 (hNone refusal)
  · intro other hSame refusal
    have hApplies : ∀ cause, Applies host options versions other cause ↔
        Applies host options versions plan cause :=
      fun cause => ⟨Applies.congr hSame.symm, Applies.congr hSame⟩
    simp only [hFirst, hApplies]

/-- A passphrase of three characters that take six bytes is too short, which is found before the
missing band, whatever else is asked for. -/
theorem ofPlan_refuses_passphrase_first :
    let plan : InstancePlan := { network := { security := .wpa2, passphrase := "ßßß" } }
    let other : InstancePlan :=
      { plan with
        channel := { channel := 196, automatic := true }
        owePartner := "b"
        network := { plan.network with vendorElements := [1], isolated := true } }
    Applies Sample.host {} {} plan (.invalidBands {}) ∧
      ofPlan Sample.host {} {} plan = .error (.invalidPassphrase .wpa2 6) ∧
      ofPlan Sample.host {} {} other = .error (.invalidPassphrase .wpa2 6) := by
  intro plan other
  obtain ⟨hFirst, -, hAlike⟩ := ofPlan_eq_error_iff Sample.host {} {} plan
  have hPassphrase : Applies Sample.host {} {} plan (.invalidPassphrase .wpa2 6) :=
    .passphrase (by decide) (by decide)
  have hRefused : ofPlan Sample.host {} {} plan = .error (.invalidPassphrase .wpa2 6) := by
    apply (hFirst _).mpr
    refine ⟨hPassphrase, ?_⟩
    intro cause hCause
    cases hCause with
    | longName long => cases long
    | _ => exact Nat.le_add_left 1 _
  have hNone : ∀ band, Bands.has band {} = false := by
    intro band
    cases band <;> decide
  exact ⟨.noBand hNone, hRefused,
    (hAlike other ⟨rfl, rfl, rfl, rfl, rfl, rfl, rfl⟩ _).mpr hRefused⟩

end SoftAp.Config
