import SoftAp.Proofs.PlanEntries
import SoftAp.Proofs.Progress
import SoftAp.Service

/-!
# Networks that use no passphrase

An open network has no use for a passphrase, nor has one with opportunistic encryption.  For such a
network every step of a request is the same with any passphrase, whatever the platform answers.
-/

namespace SoftAp

namespace Config

theorem checkPassphrase_of_unused {network : Network}
    (hUnused : writesPassphrase network.security = false) : checkPassphrase network = .ok () := by
  unfold writesPassphrase at hUnused
  simp only [Bool.or_eq_false_iff, decide_eq_false_iff_not] at hUnused
  obtain ⟨hPsk, hSae⟩ := hUnused
  unfold checkPassphrase
  rw [if_neg]
  rintro (⟨hUses, _⟩ | ⟨hIs, _⟩)
  · rw [hPsk] at hUses
    cases hUses
  · exact hSae hIs

theorem protectionEntries_of_unused {security : Security}
    (hUnused : writesPassphrase security = false) (bands : Bands) (be : Bool)
    (first second : String) :
    protectionEntries security bands be first = protectionEntries security bands be second := by
  cases security with
  | unprotected => rfl
  | wpa => cases hUnused
  | wpa2 => cases hUnused
  | saeTransition => cases hUnused
  | sae => cases hUnused
  | oweTransition => rfl
  | owe => rfl

end Config

/-- A plan with another passphrase. -/
def InstancePlan.withPassphrase (passphrase : String) (plan : InstancePlan) : InstancePlan :=
  { plan with network := { plan.network with passphrase := passphrase } }

/-- A plan that uses no passphrase is configured the same with any. -/
theorem Config.ofPlan_withPassphrase {plan : InstancePlan}
    (hUnused : writesPassphrase plan.network.security = false) (host : Host) (options : Options)
    (versions : Versions) (passphrase : String) :
    ofPlan host options versions (plan.withPassphrase passphrase) =
      ofPlan host options versions plan := by
  have hEntries : ∀ overlay eht mode,
      planEntries options versions (plan.withPassphrase passphrase) overlay eht mode =
        planEntries options versions plan overlay eht mode := by
    intro overlay eht mode
    have hProtection := protectionEntries_of_unused hUnused plan.channel.bands
      plan.capabilities.be passphrase plan.network.passphrase
    unfold planEntries
    rw [← hProtection]
    rfl
  have hOther : writesPassphrase (plan.withPassphrase passphrase).network.security = false :=
    hUnused
  unfold ofPlan
  rw [checkPassphrase_of_unused hUnused, checkPassphrase_of_unused hOther]
  simp only [hEntries]
  rfl

namespace Request

variable {request : Request} {network : Network} {tag : CompanionTag} {first second : ChannelSpec}
  {firstMember secondMember : String}

theorem pairPlans_passphrase (passphrase : String) :
    request.pairPlans { network with passphrase := passphrase } tag first second firstMember
        secondMember =
      (request.pairPlans network tag first second firstMember secondMember).map
        (InstancePlan.withPassphrase passphrase) := by
  obtain ⟨ssid, hidden, security, _, metered, vendorElements, isolated⟩ := network
  cases security <;> rfl

/-- The two plans of a network that uses no passphrase use none either. -/
theorem unused_of_mem_pairPlans (hUnused : Config.writesPassphrase network.security = false) :
    ∀ plan ∈ request.pairPlans network tag first second firstMember secondMember,
      Config.writesPassphrase plan.network.security = false := by
  intro plan hMem
  unfold pairPlans at hMem
  split at hMem
  · -- the open half is without protection
    rcases List.mem_cons.mp hMem with rfl | hMem
    · rfl
    · obtain rfl := List.mem_singleton.mp hMem
      exact hUnused
  · rcases List.mem_cons.mp hMem with rfl | hMem
    · exact hUnused
    · obtain rfl := List.mem_singleton.mp hMem
      exact hUnused

end Request

namespace Attempt

variable {W : Type} [Platform W]

theorem start_withPassphrase {plan : InstancePlan}
    (hUnused : Config.writesPassphrase plan.network.security = false) (options : Options)
    (versions : Versions) (passphrase : String) :
    (start options versions (plan.withPassphrase passphrase) : Attempting W Unit) =
      start options versions plan := by
  have hConfigure :
      (configure options versions (plan.withPassphrase passphrase) : Attempting W String) =
        configure options versions plan := by
    funext attempt
    rw [configure_apply, configure_apply, Config.ofPlan_withPassphrase hUnused]
    rfl
  rw [start, start, hConfigure]
  rfl

theorem startAll_withPassphrase {plans : List InstancePlan}
    (hUnused : ∀ plan ∈ plans, Config.writesPassphrase plan.network.security = false)
    (options : Options) (versions : Versions) (passphrase : String) :
    (startAll options versions (plans.map (InstancePlan.withPassphrase passphrase)) :
        Attempting W Unit) =
      startAll options versions plans := by
  induction plans with
  | nil => rfl
  | cons plan rest ih =>
      obtain ⟨hPlan, hRest⟩ := List.forall_mem_cons.mp hUnused
      rw [List.map_cons, startAll_cons, startAll_cons, start_withPassphrase hPlan, ih hRest]
      rfl

/-- Two access points are added the same with any passphrase. -/
theorem addPair_passphrase {network : Network}
    (hUnused : Config.writesPassphrase network.security = false) (options : Options)
    (versions : Versions) (request : Request) (tag : CompanionTag) (first second : ChannelSpec)
    (passphrase : String) :
    (addPair options versions request { network with passphrase := passphrase } tag first second :
        Attempting W (List String)) =
      addPair options versions request network tag first second := by
  have hPair : ∀ firstMember secondMember,
      (startPair options versions request (request.pairPlans
        { network with passphrase := passphrase } tag first second firstMember secondMember) :
          Attempting W Unit) =
        startPair options versions request
          (request.pairPlans network tag first second firstMember secondMember) := by
    intro firstMember secondMember
    rw [Request.pairPlans_passphrase, startPair, startAll_withPassphrase]
    · rfl
    · exact Request.unused_of_mem_pairPlans hUnused
  unfold addPair
  simp only [hPair]
  rfl

end Attempt

/-- A request for a network that uses no passphrase does the same with any. -/
theorem Service.addAccessPoint_passphrase {W : Type} [Platform W] {network : Network}
    (hUnused : Config.writesPassphrase network.security = false) (service : Service W)
    (request : Request) (tag : CompanionTag) (passphrase : String) :
    service.addAccessPoint request { network with passphrase := passphrase } tag =
      service.addAccessPoint request network tag := by
  have hSingle : ∀ channel,
      service.attemptSingle request { network with passphrase := passphrase } channel =
        service.attemptSingle request network channel := by
    intro channel
    have hPlan : request.singlePlan { network with passphrase := passphrase } channel =
        (request.singlePlan network channel).withPassphrase passphrase := rfl
    have hOwn : Config.writesPassphrase (request.singlePlan network channel).network.security =
        false := hUnused
    unfold attemptSingle Attempt.addSingle
    rw [hPlan, Attempt.start_withPassphrase hOwn]
  have hPair : ∀ first second,
      service.attemptPair request { network with passphrase := passphrase } tag first second =
        service.attemptPair request network tag first second := by
    intro first second
    unfold attemptPair
    rw [Attempt.addPair_passphrase hUnused]
  unfold addAccessPoint
  simp only [hSingle, hPair]

end SoftAp
