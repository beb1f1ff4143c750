import SoftAp.Proofs.ArgumentList
import SoftAp.Proofs.BandSet
import SoftAp.Proofs.DryRun
import SoftAp.Proofs.PlanValues
import SoftAp.Proofs.Refusals

/-!
# Bands on the command line

The band is the argument that may be repeated to name several bands.  What is rendered depends on
the set of these bands alone, which is never empty, and so does the hardware mode.
-/

namespace SoftAp

namespace CommandLine

/-! ## The bands of a list of arguments -/

/-- Whether an argument names a band. -/
def Argument.isBand : Argument → Bool
  | .setting .band _ => true
  | _ => false

/-- The band that an argument names, in upper or lower case. -/
def Argument.band? : Argument → Option Band
  | .setting .band value => (readName bandNames (lowerCase value)).toOption
  | _ => none

/-- The bands that a list of arguments names, in order. -/
def bandsOf (given : List Argument) : List Band :=
  given.filterMap Argument.band?

/-- The arguments that name no band, in order. -/
def withoutBands (given : List Argument) : List Argument :=
  given.filter fun argument => !argument.isBand

/-- Two command lines differ at most in the order and the repetition of their bands: they name the
same bands, and their other arguments are the same. -/
def SameButBands (first second : List String) : Prop :=
  ∃ given other, Writes given first ∧ Writes other second ∧
    withoutBands given = withoutBands other ∧ ∀ band, band ∈ bandsOf given ↔ band ∈ bandsOf other

section

variable {values next : Given} {argument : Argument} {given : List Argument}

/-- A value that may be given once is taken up alike whatever else there is. -/
theorem once_map {α : Type} (current : Option α) (value : Except UsageError α)
    {set set' : Option α → Given} {change : Given → Given} (h : ∀ v, set' v = change (set v)) :
    Given.once current value set' = (Given.once current value set).map change := by
  unfold Given.once
  cases current with
  | some _ => rfl
  | none => cases value <;> simp [h, Except.map]

/-- An argument that names no band leaves the bands alone and is not influenced by them. -/
theorem take_of_not_band (h : argument.isBand = false) (values : Given) (bands : List Band) :
    Given.take { values with bands := bands } argument =
      (values.take argument).map fun next => { next with bands := bands } := by
  cases argument with
  | switch switch =>
      show Given.turnOn _ switch = (values.turnOn switch).map _
      unfold Given.turnOn
      split <;> rfl
  | setting setting value =>
      cases setting with
      | band => cases h
      | range =>
          show (readRangeValue value).map _ = ((readRangeValue value).map _).map _
          cases readRangeValue value <;> rfl
      | _ =>
          simp only [Given.take, Given.put]
          exact once_map _ _ fun _ => rfl

theorem bands_of_take (h : argument.isBand = false) (hTake : values.take argument = .ok next) :
    next.bands = values.bands := by
  have hSame := take_of_not_band h values values.bands
  rw [hTake] at hSame
  have hNext : next = { next with bands := values.bands } := Except.ok.inj hSame
  exact (congrArg Given.bands hNext).trans rfl

theorem take_band {value : String} (h : values.take (.setting .band value) = .ok next) :
    ∃ band, (Argument.setting .band value).band? = some band ∧
      next = { values with bands := values.bands ++ [band] } := by
  change (readName bandNames (lowerCase value)).map _ = _ at h
  show ∃ band, (readName bandNames (lowerCase value)).toOption = some band ∧ _
  cases hRead : readName bandNames (lowerCase value) with
  | error error =>
      rw [hRead] at h
      cases h
  | ok band =>
      rw [hRead] at h
      exact ⟨band, rfl, (Except.ok.inj h).symm⟩

theorem band?_of_not_band (h : argument.isBand = false) : argument.band? = none := by
  unfold Argument.band?
  split
  · cases h
  · rfl

/-- What is taken up from a list of arguments: its bands, and what its other arguments give. -/
theorem foldlM_take_eq_ok (h : given.foldlM Given.take values = .ok next) :
    next.bands = values.bands ++ bandsOf given ∧
      (withoutBands given).foldlM Given.take { values with bands := [] } =
        .ok { next with bands := [] } := by
  induction given generalizing values with
  | nil =>
      obtain rfl := Except.ok.inj h
      exact ⟨(List.append_nil _).symm, rfl⟩
  | cons argument rest ih =>
      rw [List.foldlM_cons] at h
      obtain ⟨middle, hTake, hRest⟩ := Config.bind_eq_ok h
      obtain ⟨hBands, hOthers⟩ := ih hRest
      cases hBand : argument.isBand with
      | false =>
          constructor
          · rw [hBands, bands_of_take hBand hTake, bandsOf, bandsOf,
              List.filterMap_cons_none (band?_of_not_band hBand)]
          · rw [withoutBands, List.filter_cons_of_pos (by simp [hBand]), List.foldlM_cons,
              take_of_not_band hBand, hTake]
            exact hOthers
      | true =>
          obtain ⟨value, rfl⟩ : ∃ value, argument = .setting .band value := by
            unfold Argument.isBand at hBand
            split at hBand
            · exact ⟨_, rfl⟩
            · cases hBand
          obtain ⟨band, hRead, rfl⟩ := take_band hTake
          constructor
          · rw [hBands, bandsOf, bandsOf, List.filterMap_cons_some hRead, List.append_assoc]
            rfl
          · rw [withoutBands, List.filter_cons_of_neg (by simp [hBand])]
            exact hOthers

end

/-! ## The request -/

/-- Arguments with the same bands in another order or number ask for the same. -/
theorem Arguments.plan_congr {arguments : Arguments} {bands : List Band}
    (h : ∀ band, band ∈ arguments.bands ↔ band ∈ bands) :
    Arguments.plan { arguments with bands := bands } = arguments.plan := by
  have hMask : Bands.ofList bands = Bands.ofList arguments.bands :=
    Bands.ofList_congr fun band => (h band).symm
  have hSix : bands.contains .ghz6 = arguments.bands.contains .ghz6 := by
    rw [Bool.eq_iff_iff, List.contains_iff_mem, List.contains_iff_mem]
    exact (h .ghz6).symm
  unfold plan request network channelSpec capabilities
  simp only [hMask, hSix]

/-- The arguments for taken up values have their bands, of which there is at least one. -/
theorem arguments_eq_ok {values : Given} {arguments : Arguments}
    (h : values.arguments = .ok arguments) :
    arguments.bands = values.bands ∧ arguments.bands ≠ [] ∧
      ∀ bands, bands ≠ [] →
        Given.arguments { values with bands := bands } = .ok { arguments with bands := bands } := by
  unfold Given.arguments at h
  split at h
  · cases h
  · cases h
  · next interface hInterface hNonempty =>
    obtain rfl := Except.ok.inj h
    refine ⟨rfl, hNonempty, fun bands hBands => ?_⟩
    unfold Given.arguments
    simp only [hInterface]

theorem bands_of_writes {given : List Argument} {texts : List String} {arguments : Arguments}
    (h : Writes given texts) (hRead : Arguments.read texts = .ok arguments) :
    arguments.bands = bandsOf given := by
  rw [read_of_writes h] at hRead
  obtain ⟨values, hTaken, hArguments⟩ := Config.bind_eq_ok hRead
  rw [(arguments_eq_ok hArguments).1, (foldlM_take_eq_ok hTaken).1]
  rfl

/-- Two accepted lines that differ at most in the order and the repetition of their bands stand for
arguments that differ in their lists of bands alone, and these have the same bands. -/
theorem read_of_sameButBands {first second : List String} {arguments other : Arguments}
    (h : SameButBands first second) (hFirst : Arguments.read first = .ok arguments)
    (hSecond : Arguments.read second = .ok other) :
    other = { arguments with bands := other.bands } ∧
      ∀ band, band ∈ arguments.bands ↔ band ∈ other.bands := by
  obtain ⟨given, given', hWrites, hWrites', hOthers, hBands⟩ := h
  rw [← bands_of_writes hWrites hFirst, ← bands_of_writes hWrites' hSecond] at hBands
  refine ⟨?_, hBands⟩
  rw [read_of_writes hWrites] at hFirst
  rw [read_of_writes hWrites'] at hSecond
  obtain ⟨values, hTaken, hArguments⟩ := Config.bind_eq_ok hFirst
  obtain ⟨values', hTaken', hArguments'⟩ := Config.bind_eq_ok hSecond
  obtain ⟨-, -, hMade⟩ := arguments_eq_ok hArguments
  obtain ⟨hSame', hNonempty', -⟩ := arguments_eq_ok hArguments'
  -- apart from their bands, the same values are taken up
  have hRest : ({ values with bands := [] } : Given) = { values' with bands := [] } := by
    apply Except.ok.inj (α := Given) (ε := UsageError)
    rw [← (foldlM_take_eq_ok hTaken).2, ← (foldlM_take_eq_ok hTaken').2, hOthers]
  have hValues : values' = { values with bands := other.bands } := by
    rw [hSame']
    exact congrArg (fun v : Given => { v with bands := values'.bands }) hRest.symm
  rw [hValues, hMade _ hNonempty'] at hArguments'
  exact (Except.ok.inj hArguments').symm

/-! ## The hardware mode -/

/-- The hardware mode of a list of bands: 60 GHz is used by itself, 2.4 GHz with the higher bands or
by itself, and the higher bands together. -/
def modeOf (bands : List Band) : String :=
  if .ghz60 ∈ bands then "ad"
  else if .ghz2 ∈ bands ∧ (.ghz5 ∈ bands ∨ .ghz6 ∈ bands) then "any"
  else if .ghz2 ∈ bands then "g"
  else "a"

theorem hardwareMode_ofList {bands : List Band} (h : bands ≠ []) :
    Config.hardwareMode (.ofList bands) = .ok (modeOf bands) := by
  unfold Config.hardwareMode Config.hardwareMode? modeOf
  simp only [Bands.has_ofList]
  by_cases h60 : Band.ghz60 ∈ bands
  · simp [h60]
  · by_cases h2 : Band.ghz2 ∈ bands
    · by_cases hHigher : Band.ghz5 ∈ bands ∨ Band.ghz6 ∈ bands <;> simp [h60, h2, hHigher]
    · -- one of the bands that are left is in the list
      have hHigher : Band.ghz5 ∈ bands ∨ Band.ghz6 ∈ bands := by
        obtain ⟨band, hMem⟩ := List.exists_mem_of_ne_nil bands h
        cases band with
        | ghz2 => exact absurd hMem h2
        | ghz5 => exact .inl hMem
        | ghz6 => exact .inr hMem
        | ghz60 => exact absurd hMem h60
      simp [h60, h2, hHigher]

end CommandLine

/-- The hardware mode of a plan is its only value of the key. -/
theorem Config.values_hardwareMode {host : Host} {options : Options} {versions : Versions}
    {plan : InstancePlan} {config : Config} (h : ofPlan host options versions plan = .ok config) :
    ∃ mode, hardwareMode plan.channel.bands = .ok mode ∧ config.values "hw_mode" = [mode] := by
  obtain ⟨mode, eht, overlay, hMode, hEht, hOverlay, rfl⟩ := ofPlan_eq_ok h
  refine ⟨mode, hMode, ?_⟩
  have hNone : ∀ {keys : List String} {entries : List Entry}, "hw_mode" ∉ keys →
      Drawn keys entries → valuesOf "hw_mode" entries = [] :=
    fun hKey hDrawn => hDrawn.among.valuesOf_eq_nil hKey
  have hFront : valuesOf "hw_mode" overlay = [] :=
    (keyed_overlayEntries hOverlay).among.valuesOf_eq_nil (by decide)
  show valuesOf "hw_mode" (planEntries options versions plan overlay eht mode) = _
  rw [planEntries_eq, planHead]
  simp only [valuesOf_append, hFront, hNone (by decide) (drawn_identityEntries options plan),
    hNone (by decide) (drawn_channelEntries _ _), hNone (by decide) (drawn_modeEntries _),
    hNone (by decide) (drawn_heEntries _ _), hNone (by decide) (drawn_ehtEntries hEht),
    hNone (by decide) (drawn_widthEntries _ _), hNone (by decide) (drawn_visibilityEntries _),
    hNone (by decide) (drawn_meteringEntries _),
    hNone (by decide) (drawn_protectionEntries _ _ _ _),
    hNone (by decide) (drawn_groupEntries plan), hNone (by decide) (drawn_planTail versions plan),
    List.nil_append, List.append_nil]
  rfl

namespace CommandLine

theorem render_eq_error {host : Host} {options : Options} {arguments : Arguments}
    {error : RenderError} (h : render host options arguments = .error error) :
    Config.ofPlan host options ⟨options.serviceVersion, options.serviceVersion⟩ arguments.plan =
      .error error.cause := by
  unfold render at h
  split at h
  · cases h
  · next hCause =>
    rw [hCause, ← Except.error.inj h]

/-- What is rendered for an accepted command line depends on the set of its bands, whatever their
order and repetition.  The mask is the union of the bands, so rendering is never refused for them,
and the hardware mode is that of the bands. -/
theorem render_of_bandSet {texts : List String} {arguments : Arguments}
    (accepted : Arguments.read texts = .ok arguments) (host : Host) (options : Options) :
    (∀ texts' other, Arguments.read texts' = .ok other → SameButBands texts texts' →
      render host options other = render host options arguments) ∧
    (∃ given, Writes given texts ∧ arguments.bands = bandsOf given) ∧
    (∀ place, arguments.plan.channel.bands.bit place =
      arguments.bands.any fun band => band.mask.bit place) ∧
    (∀ error, render host options arguments = .error error →
      ∀ bands, error.cause ≠ .invalidBands bands) ∧
    ∀ text, render host options arguments = .ok text →
      ∃ config, Config.ofPlan host options ⟨options.serviceVersion, options.serviceVersion⟩
          arguments.plan = .ok config ∧ config.render = text ∧
        config.values "hw_mode" = [modeOf arguments.bands] := by
  obtain ⟨given, hWrites, values, hTaken, hArguments⟩ := read_eq_ok_iff.mp accepted
  have hNonempty : arguments.bands ≠ [] := (arguments_eq_ok hArguments).2.1
  have hMode : Config.hardwareMode arguments.plan.channel.bands = .ok (modeOf arguments.bands) :=
    hardwareMode_ofList hNonempty
  refine ⟨?_, ⟨given, hWrites, bands_of_writes hWrites accepted⟩, ?_, ?_, ?_⟩
  · intro texts' other hOther hSame
    obtain ⟨hBands, hMem⟩ := read_of_sameButBands hSame accepted hOther
    have hPlan : other.plan = arguments.plan := by
      rw [hBands]
      exact Arguments.plan_congr hMem
    have hInterface : other.interface = arguments.interface := by rw [hBands]
    rw [render, render, hPlan, hInterface]
  · intro place
    exact Bands.bit_ofList place arguments.bands
  · intro error hError bands hCause
    have hRefused := (Config.refusesFirst_ofPlan host options _ arguments.plan _).mp
      (render_eq_error hError)
    rw [hCause] at hRefused
    cases hRefused.1 with
    | noBand none =>
        rw [Config.hardwareMode, Config.hardwareMode?_eq_none_iff.mpr none] at hMode
        cases hMode
  · intro text hText
    obtain ⟨config, hConfig, hRender⟩ := render_eq_ok hText
    obtain ⟨mode, hMode', hValues⟩ := Config.values_hardwareMode hConfig
    rw [hMode] at hMode'
    rw [← Except.ok.inj hMode'] at hValues
    exact ⟨config, hConfig, hRender, hValues⟩

/-- The bands of a line may be given in another order, twice, in upper case or behind an equals
sign. -/
theorem render_of_bandSet_of_shuffled :
    let first := ["--iface", "a", "--band", "2g", "--channel", "6", "--band=5g"]
    let second := ["--band", "5G", "--iface", "a", "--band=2g", "--channel", "6", "--band", "2G"]
    let arguments : Arguments := { interface := "a", bands := [.ghz2, .ghz5], channel := 6 }
    let other : Arguments := { arguments with bands := [.ghz5, .ghz2, .ghz2] }
    SameButBands first second ∧ Arguments.read first = .ok arguments ∧
      Arguments.read second = .ok other ∧
      ∃ config : Config, render Sample.host {} arguments = .ok config.render ∧
        render Sample.host {} other = .ok config.render ∧ config.values "hw_mode" = ["any"] := by
  intro first second arguments other
  have hFirst : Writes [.setting .interface "a", .setting .band "2g", .setting .channel "6",
      .setting .band "5g"] ["--" ++ "iface", "a", "--" ++ "band", "2g", "--" ++ "channel", "6",
      "--" ++ "band" ++ "=" ++ "5g"] :=
    .apart rfl (standsAlone_of_head (by decide)) (.apart rfl (standsAlone_of_head (by decide))
      (.apart rfl (standsAlone_of_head (by decide)) (.joined rfl .nil)))
  have hSecond : Writes [.setting .band "5G", .setting .interface "a", .setting .band "2g",
      .setting .channel "6", .setting .band "2G"] ["--" ++ "band", "5G", "--" ++ "iface", "a",
      "--" ++ "band" ++ "=" ++ "2g", "--" ++ "channel", "6", "--" ++ "band", "2G"] :=
    .apart rfl (standsAlone_of_head (by decide)) (.apart rfl (standsAlone_of_head (by decide))
      (.joined rfl (.apart rfl (standsAlone_of_head (by decide))
        (.apart rfl (standsAlone_of_head (by decide)) .nil))))
  have hSame : SameButBands first second := by
    refine ⟨_, _, hFirst, hSecond, by decide, ?_⟩
    intro band
    cases band <;> decide
  have hRead : Arguments.read first = .ok arguments := by decide +kernel
  have hRead' : Arguments.read second = .ok other := by decide +kernel
  obtain ⟨hAlike, -, -, -, hRendered⟩ := render_of_bandSet hRead Sample.host {}
  have hOk : (render Sample.host {} arguments).isOk = true := by decide +kernel
  cases hText : render Sample.host {} arguments with
  | error error =>
      rw [hText] at hOk
      cases hOk
  | ok text =>
      obtain ⟨config, -, rfl, hMode⟩ := hRendered text hText
      exact ⟨hSame, hRead, hRead', config, rfl,
        (hAlike second other hRead' hSame).trans hText, hMode.trans (by decide)⟩

end CommandLine

end SoftAp
