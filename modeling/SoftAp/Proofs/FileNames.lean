import SoftAp.Options
import SoftAp.Proofs.IntegerLiteral
import SoftAp.Text

/-!
# The names of configuration files

The file of an instance is named for the instance, or for the device and the identity of a link with
a hyphen between them.  Different names make different files, and an identity has no hyphen, so the
file of a link tells its device and its identity.  But the name of an instance may have hyphens.
-/

namespace SoftAp

/-! ## Texts with a hyphen -/

/-- The last hyphen parts a text. -/
theorem append_hyphen_inj {first second rest rest' : String} (h : '-' ∉ rest.toList)
    (h' : '-' ∉ rest'.toList) :
    first ++ "-" ++ rest = second ++ "-" ++ rest' ↔ first = second ∧ rest = rest' := by
  have hSplit : ∀ (first : String) {rest : String}, '-' ∉ rest.toList →
      Text.splitFirst? '-' (first ++ "-" ++ rest).toList.reverse =
        some (rest.toList.reverse, first.toList.reverse) := by
    intro first rest hRest
    have hText : (first ++ "-" ++ rest).toList.reverse =
        rest.toList.reverse ++ '-' :: first.toList.reverse := by
      simp [String.toList_append]
    rw [hText]
    exact Text.splitFirst?_append _ (by simpa using hRest)
  constructor
  · intro hSame
    have hParts := hSplit first h
    rw [hSame, hSplit second h'] at hParts
    obtain ⟨hRest, hFirst⟩ := Prod.mk.inj (Option.some.inj hParts.symm)
    exact ⟨String.toList_inj.mp (List.reverse_inj.mp hFirst),
      String.toList_inj.mp (List.reverse_inj.mp hRest)⟩
  · rintro ⟨rfl, rfl⟩
    rfl

/-- The identity of a link has neither a hyphen nor a slash. -/
theorem Text.not_mem_of_readByte {identity : String} {id : UInt8}
    (h : readByte identity.toList = .ok id) : '-' ∉ identity.toList ∧ '/' ∉ identity.toList := by
  have hChars := (readByte_eq_ok_iff.mp h).digit_or_plus
  constructor
  · intro hMem
    exact absurd (hChars '-' hMem) (by decide)
  · intro hMem
    exact absurd (hChars '/' hMem) (by decide)

namespace Path

/-! ## Files in a directory -/

/-- What is put in front of the names in a directory. -/
def inFront (directory : String) : String :=
  if directory = "" ∨ directory.toList.getLast? = some '/' then directory else directory ++ "/"

/-- What a configuration file is named for. -/
def stem (instanceName group : String) (multiLink : Bool) : String :=
  if multiLink then group ++ "-" ++ instanceName else instanceName

/-- The last component of a path. -/
def fileName (path : String) : String :=
  String.ofList (path.toList.reverse.takeWhile (· != '/')).reverse

theorem join_eq (directory : String) {name : String} (relative : name.toList.head? ≠ some '/') :
    join directory name = inFront directory ++ name := by
  unfold join inFront
  rw [if_neg relative]
  split
  · next hLast =>
    have hEmpty : directory = "" := String.toList_inj.mp (List.getLast?_eq_none_iff.mp hLast)
    rw [if_pos (.inl hEmpty), hEmpty, String.empty_append]
  · next hLast => rw [if_pos (.inr hLast)]
  · next c hSlash hLast =>
    have hNot : ¬(directory = "" ∨ directory.toList.getLast? = some '/') := by
      rintro (rfl | hSome)
      · cases hLast
      · exact hSlash (Option.some.inj (hLast.symm.trans hSome))
    rw [if_neg hNot]

/-- What is put in front of a name is nothing or ends with a slash. -/
theorem head?_reverse_inFront (directory : String) :
    ∀ c ∈ (inFront directory).toList.reverse.head?, c = '/' := by
  unfold inFront
  split
  · next hEnd =>
    obtain rfl | hLast := hEnd
    · simp
    · simp [hLast]
  · simp [String.toList_append]

variable {directory name name' group group' : String} {multiLink multiLink' : Bool}

theorem configFile_eq (directory name group : String) (multiLink : Bool) :
    configFile directory name group multiLink =
      inFront directory ++ ("hostapd_" ++ stem name group multiLink ++ ".conf") := by
  refine join_eq directory ?_
  have hHead : ("hostapd_" ++ stem name group multiLink ++ ".conf").toList.head? = some 'h' := by
    simp [String.toList_append]
  show ("hostapd_" ++ stem name group multiLink ++ ".conf").toList.head? ≠ some '/'
  rw [hHead]
  decide

/-- Files of one directory are the same exactly if they are named for the same. -/
theorem configFile_inj :
    configFile directory name group multiLink = configFile directory name' group' multiLink' ↔
      stem name group multiLink = stem name' group' multiLink' := by
  rw [configFile_eq, configFile_eq, String.append_right_inj, String.append_left_inj,
    String.append_right_inj]

/-- Nothing of the directory is in the last component of the path. -/
theorem fileName_configFile (h : '/' ∉ (stem name group multiLink).toList) :
    fileName (configFile directory name group multiLink) =
      "hostapd_" ++ stem name group multiLink ++ ".conf" := by
  have hName : '/' ∉ ("hostapd_" ++ stem name group multiLink ++ ".conf").toList.reverse := by
    simp [String.toList_append, h]
  rw [configFile_eq, fileName, String.toList_append, List.reverse_append]
  generalize "hostapd_" ++ stem name group multiLink ++ ".conf" = file at hName ⊢
  have hEnd : (inFront directory).toList.reverse.takeWhile (· != '/') = [] := by
    have hSlash := head?_reverse_inFront directory
    cases hFront : (inFront directory).toList.reverse with
    | nil => rfl
    | cons c rest =>
        rw [hFront] at hSlash
        simp [hSlash c rfl]
  rw [List.takeWhile_append_of_pos, hEnd, List.append_nil, List.reverse_reverse,
    String.ofList_toList]
  intro c hMem
  exact bne_iff_ne.mpr fun hSlash => hName (hSlash ▸ hMem)

/-- As long as no slash is in what they are named for, different files have different names. -/
theorem fileName_configFile_inj (h : '/' ∉ (stem name group multiLink).toList)
    (h' : '/' ∉ (stem name' group' multiLink').toList) :
    fileName (configFile directory name group multiLink) =
        fileName (configFile directory name' group' multiLink') ↔
      configFile directory name group multiLink =
        configFile directory name' group' multiLink' := by
  rw [fileName_configFile h, fileName_configFile h', configFile_inj, String.append_left_inj,
    String.append_right_inj]

end Path

end SoftAp
