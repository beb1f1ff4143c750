import Mathlib.Tactic.Common
import SoftAp.CommandLine.Reader
import SoftAp.Proofs.PlanEntries

/-!
# The arguments of a command line

A command line is a list of arguments, each written in one or two texts: a switch by its name, a
setting by its name with the value behind an equals sign or in the next text.  A line is accepted
exactly if it is written so and the values can be taken up one after the other.
-/

namespace SoftAp

/-- A value that is found for a key stands beside it. -/
theorem Association.mem_of_get? {κ υ : Type} [DecidableEq κ] {key : κ} {value : υ}
    {pairs : List (κ × υ)} (h : get? key pairs = some value) : (key, value) ∈ pairs := by
  induction pairs with
  | nil => cases h
  | cons pair rest ih =>
      obtain ⟨k, v⟩ := pair
      by_cases hKey : k = key
      · rw [get?, if_pos hKey] at h
        rw [hKey, Option.some.inj h]
        exact List.mem_cons_self
      · rw [get?, if_neg hKey] at h
        exact List.mem_cons_of_mem _ (ih h)

namespace CommandLine

/-- An argument as it is given: a switch, or a setting with its value. -/
inductive Argument
  | switch (switch : Switch)
  | setting (setting : Setting) (value : String)
  deriving DecidableEq, Repr

/-- Take up an argument. -/
def Given.take (given : Given) : Argument → Except UsageError Given
  | .switch switch => given.turnOn switch
  | .setting setting value => given.put setting value

/-- Take up an argument behind what is settled. -/
def Reading.take (reading : Reading) (argument : Argument) : Except UsageError Reading := do
  let values ← reading.settle
  let next ← values.take argument
  .ok ⟨next, none⟩

/-- A text that can be the value of the setting in front of it: it does not begin with a hyphen, or
is nothing else. -/
def StandsAlone (text : String) : Prop :=
  ∀ c rest, text.toList ≠ '-' :: c :: rest

theorem standsAlone_of_head {text : String} (h : text.toList.head? ≠ some '-') :
    StandsAlone text := by
  intro c rest hText
  rw [hText] at h
  exact h rfl

/-- How a list of arguments is written. -/
inductive Writes : List Argument → List String → Prop
  | nil : Writes [] []
  /-- Two hyphens may stand at the end. -/
  | stop : Writes [] ["--"]
  | switch {name : String} {switch : Switch} {given : List Argument} {texts : List String}
      (hName : Association.get? name names = some (.switch switch)) (h : Writes given texts) :
      Writes (.switch switch :: given) (("--" ++ name) :: texts)
  | joined {name value : String} {setting : Setting} {given : List Argument} {texts : List String}
      (hName : Association.get? name names = some (.setting setting)) (h : Writes given texts) :
      Writes (.setting setting value :: given) (("--" ++ name ++ "=" ++ value) :: texts)
  | apart {name value : String} {setting : Setting} {given : List Argument} {texts : List String}
      (hName : Association.get? name names = some (.setting setting)) (hValue : StandsAlone value)
      (h : Writes given texts) :
      Writes (.setting setting value :: given) (("--" ++ name) :: value :: texts)

/-! ## One text -/

section

variable {reading : Reading} {name value text : String} {setting : Setting} {switch : Switch}

/-- The names are neither empty nor do they hold an equals sign. -/
theorem name_clean {meaning : Name} (h : Association.get? name names = some meaning) :
    name ≠ "" ∧ '=' ∉ name.toList := by
  have hAll : ∀ entry ∈ names, entry.1 ≠ "" ∧ '=' ∉ entry.1.toList := by decide +kernel
  exact hAll _ (Association.mem_of_get? h)

theorem argument_name (h : '=' ∉ name.toList) :
    reading.argument ("--" ++ name) = reading.long name none := by
  have hText : ("--" ++ name).toList = '-' :: '-' :: name.toList := by simp
  unfold Reading.argument
  rw [hText]
  simp only [Text.splitFirst?_eq_none_iff.mpr h, String.ofList_toList]

theorem argument_joined (h : '=' ∉ name.toList) :
    reading.argument ("--" ++ name ++ "=" ++ value) = reading.long name (some value) := by
  have hText : ("--" ++ name ++ "=" ++ value).toList =
      '-' :: '-' :: (name.toList ++ '=' :: value.toList) := by simp
  unfold Reading.argument
  rw [hText]
  simp only [Text.splitFirst?_append _ h, String.ofList_toList]

theorem argument_of_standsAlone (h : StandsAlone text) :
    reading.argument text = reading.plain text := by
  unfold Reading.argument
  split
  · exact absurd ‹_› (h _ _)
  · exact absurd ‹_› (h _ _)
  · rfl

theorem readAll_cons (h : text ≠ "--") (rest : List String) :
    Reading.readAll reading (text :: rest) =
      reading.argument text >>= fun next => Reading.readAll next rest := by
  rw [Reading.readAll]
  exact h

theorem long_switch (hName : Association.get? name names = some (.switch switch)) :
    reading.long name none = reading.take (.switch switch) := by
  unfold Reading.long
  rw [hName]
  rfl

theorem long_joined (hName : Association.get? name names = some (.setting setting)) :
    reading.long name (some value) = reading.take (.setting setting value) := by
  unfold Reading.long
  rw [hName]
  rfl

theorem long_waiting (hName : Association.get? name names = some (.setting setting)) :
    reading.long name none =
      reading.settle.map fun values => ⟨values, some ⟨setting, none⟩⟩ := by
  unfold Reading.long
  rw [hName]
  cases reading.settle <;> rfl

end

/-! ## Reading what is written -/

/-- The values that are settled, with the arguments that are still to come. -/
def Reading.followedBy (reading : Reading) (given : List Argument) : Except UsageError Arguments :=
  reading.settle >>= fun values => given.foldlM Given.take values >>= Given.arguments

theorem followedBy_cons (reading : Reading) (argument : Argument) (given : List Argument) :
    reading.followedBy (argument :: given) =
      reading.take argument >>= (Reading.followedBy · given) := by
  unfold Reading.followedBy Reading.take
  cases reading.settle with
  | error error => rfl
  | ok values =>
      show ((values.take argument >>= _) >>= _) = ((values.take argument >>= _) >>= _)
      cases values.take argument <;> rfl

/-- A line that is written as a list of arguments is read as the list is taken up. -/
theorem readAll_of_writes {given : List Argument} {texts : List String} (h : Writes given texts)
    (reading : Reading) : reading.readAll texts = reading.followedBy given := by
  induction h generalizing reading with
  | nil => rfl
  | stop => rfl
  | switch hName h ih =>
      obtain ⟨hNonempty, hClean⟩ := name_clean hName
      rw [readAll_cons (by simpa using hNonempty), argument_name hClean, long_switch hName,
        followedBy_cons]
      simp only [ih]
  | @joined name value _ _ _ hName h ih =>
      have hText : "--" ++ name ++ "=" ++ value ≠ "--" := by
        intro hEq
        have hChars := congrArg String.toList hEq
        simp at hChars
      rw [readAll_cons hText, argument_joined (name_clean hName).2, long_joined hName,
        followedBy_cons]
      simp only [ih]
  | @apart name value setting given texts hName hValue h ih =>
      obtain ⟨hNonempty, hClean⟩ := name_clean hName
      have hText : value ≠ "--" := by
        rintro rfl
        exact hValue '-' [] rfl
      rw [readAll_cons (by simpa using hNonempty), argument_name hClean, long_waiting hName]
      unfold Reading.followedBy
      cases reading.settle with
      | error error => rfl
      | ok values =>
          -- the value is looked at when the rest of the line is read
          show Reading.readAll ⟨values, some ⟨setting, none⟩⟩ (value :: texts) = _
          rw [readAll_cons hText, argument_of_standsAlone hValue]
          show Reading.readAll ⟨values, some ⟨setting, some value⟩⟩ texts = _
          rw [ih]
          show (values.take (.setting setting value) >>= _) =
            ((values.take (.setting setting value) >>= _) >>= _)
          cases values.take (.setting setting value) <;> rfl

/-! ## What is read is written -/

section

variable {reading next : Reading} {values : Given} {name text : String} {texts : List String}
  {arguments : Arguments}

/-- The setting whose value is expected in the next text. -/
def Reading.expects? (reading : Reading) : Option Setting :=
  match reading.pending with
  | some ⟨setting, none⟩ => some setting
  | _ => none

theorem expects?_of_settle (h : reading.settle = .ok values) : reading.expects? = none := by
  unfold Reading.settle at h
  unfold Reading.expects?
  split at h
  · next hPending => rw [hPending]
  · cases h
  · next hPending => rw [hPending]

/-- What a name can stand for, and whether its value is expected in the next text. -/
def Named (name : String) (value? : Option String) (next : Reading) : Prop :=
  (∃ switch, Association.get? name names = some (.switch switch) ∧ value? = none ∧
      next.expects? = none) ∨
    ∃ setting, Association.get? name names = some (.setting setting) ∧
      next.expects? = if value? = none then some setting else none

theorem long_eq_ok {value? : Option String} (h : reading.long name value? = .ok next) :
    reading.expects? = none ∧ Named name value? next := by
  unfold Reading.long at h
  split at h
  · cases h
  · next hName =>
    obtain ⟨_, hSettle, h⟩ := Config.bind_eq_ok h
    obtain ⟨_, -, h⟩ := Config.bind_eq_ok h
    cases h
    exact ⟨expects?_of_settle hSettle, .inr ⟨_, hName, rfl⟩⟩
  · next hName =>
    obtain ⟨_, hSettle, h⟩ := Config.bind_eq_ok h
    cases h
    exact ⟨expects?_of_settle hSettle, .inr ⟨_, hName, rfl⟩⟩
  · cases h
  · next hName =>
    obtain ⟨_, hSettle, h⟩ := Config.bind_eq_ok h
    obtain ⟨_, -, h⟩ := Config.bind_eq_ok h
    cases h
    exact ⟨expects?_of_settle hSettle, .inl ⟨_, hName, rfl, rfl⟩⟩
  · obtain ⟨_, -, h⟩ := Config.bind_eq_ok h
    cases h
  · obtain ⟨_, -, h⟩ := Config.bind_eq_ok h
    cases h

theorem short_ne_ok (reading next : Reading) (c : Char) : reading.short c ≠ .ok next := by
  unfold Reading.short
  intro h
  split at h
  · obtain ⟨_, -, h⟩ := Config.bind_eq_ok h
    cases h
  · split at h
    · obtain ⟨_, -, h⟩ := Config.bind_eq_ok h
      cases h
    · cases h

theorem plain_eq_ok (h : reading.plain text = .ok next) :
    reading.expects? ≠ none ∧ next.expects? = none := by
  unfold Reading.plain at h
  split at h
  · next setting hPending =>
    have hExpects : reading.expects? = some setting := by rw [Reading.expects?, hPending]
    cases h
    rw [hExpects]
    exact ⟨Option.some_ne_none setting, rfl⟩
  · cases h

/-- A text is a name, with or without a value, where no value is expected, and the value where one
is. -/
theorem argument_eq_ok (h : reading.argument text = .ok next) :
    (reading.expects? = none ∧ ∃ name, (text = "--" ++ name ∧ Named name none next) ∨
      ∃ value, text = "--" ++ name ++ "=" ++ value ∧ Named name (some value) next) ∨
    reading.expects? ≠ none ∧ StandsAlone text ∧ next.expects? = none := by
  unfold Reading.argument at h
  split at h
  · next rest hText =>
    have hText' : text = "--" ++ String.ofList rest := by
      rw [← String.ofList_toList (s := text), hText]
      simp [String.ext_iff]
    split at h
    · obtain ⟨hExpects, hNamed⟩ := long_eq_ok h
      exact .inl ⟨hExpects, _, .inl ⟨hText', hNamed⟩⟩
    · next before after hSplit =>
      obtain ⟨hExpects, hNamed⟩ := long_eq_ok h
      refine .inl ⟨hExpects, _, .inr ⟨_, ?_, hNamed⟩⟩
      rw [hText', Text.splitFirst?_eq_some hSplit]
      simp [String.ext_iff]
  · exact absurd h (short_ne_ok _ _ _)
  · next hLong hShort =>
    obtain ⟨hExpects, hNext⟩ := plain_eq_ok h
    exact .inr ⟨hExpects, fun c rest hText => hShort c rest hText, hNext⟩

/-- The texts of an accepted line, from some place in it on: a list of arguments, behind a value if
one is expected. -/
theorem exists_writes_of_readAll (texts : List String) :
    ∀ reading : Reading, reading.readAll texts = .ok arguments →
      if reading.expects? = none then ∃ given, Writes given texts
      else ∃ value rest given, texts = value :: rest ∧ StandsAlone value ∧ Writes given rest := by
  induction texts with
  | nil =>
      intro reading h
      obtain ⟨_, hSettle, -⟩ := Config.bind_eq_ok h
      rw [if_pos (expects?_of_settle hSettle)]
      exact ⟨[], .nil⟩
  | cons text rest ih =>
      intro reading h
      by_cases hStop : text = "--"
      · subst hStop
        cases rest with
        | nil =>
            obtain ⟨_, hSettle, -⟩ := Config.bind_eq_ok h
            rw [if_pos (expects?_of_settle hSettle)]
            exact ⟨[], .stop⟩
        | cons _ _ => cases h
      · rw [readAll_cons hStop] at h
        obtain ⟨next, hArgument, hRest⟩ := Config.bind_eq_ok h
        have hNext := ih next hRest
        rcases argument_eq_ok hArgument with
          ⟨hExpects, name, ⟨rfl, hNamed⟩ | ⟨value, rfl, hNamed⟩⟩ | ⟨hExpects, hAlone, hDone⟩
        · rw [if_pos hExpects]
          obtain ⟨switch, hName, -, hDone⟩ | ⟨setting, hName, hWaits⟩ := hNamed
          · rw [if_pos hDone] at hNext
            obtain ⟨given, hWrites⟩ := hNext
            exact ⟨_, .switch hName hWrites⟩
          · rw [if_pos rfl] at hWaits
            rw [if_neg (by simp [hWaits])] at hNext
            obtain ⟨value, rest, given, rfl, hAlone, hWrites⟩ := hNext
            exact ⟨_, .apart hName hAlone hWrites⟩
        · rw [if_pos hExpects]
          obtain ⟨_, -, hNone, -⟩ | ⟨setting, hName, hDone⟩ := hNamed
          · cases hNone
          · rw [if_neg (by simp)] at hDone
            rw [if_pos hDone] at hNext
            obtain ⟨given, hWrites⟩ := hNext
            exact ⟨_, .joined hName hWrites⟩
        · rw [if_neg hExpects]
          rw [if_pos hDone] at hNext
          obtain ⟨given, hWrites⟩ := hNext
          exact ⟨text, rest, given, rfl, hAlone, hWrites⟩

end

theorem read_of_writes {given : List Argument} {texts : List String} (h : Writes given texts) :
    Arguments.read texts = given.foldlM Given.take {} >>= Given.arguments :=
  readAll_of_writes h {}

/-- A line is accepted exactly if it is written as a list of arguments that can be taken up. -/
theorem read_eq_ok_iff {texts : List String} {arguments : Arguments} :
    Arguments.read texts = .ok arguments ↔
      ∃ given, Writes given texts ∧
        ∃ values, given.foldlM Given.take {} = .ok values ∧ values.arguments = .ok arguments := by
  constructor
  · intro h
    obtain ⟨given, hWrites⟩ := exists_writes_of_readAll texts {} h
    rw [read_of_writes hWrites] at h
    exact ⟨given, hWrites, Config.bind_eq_ok h⟩
  · rintro ⟨given, hWrites, values, hTaken, hArguments⟩
    rw [read_of_writes hWrites, hTaken]
    exact hArguments

end CommandLine

end SoftAp
