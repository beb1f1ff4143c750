import SoftAp.Proofs.PlanEntries

/-!
# The lines of a configuration

The text of a configuration is cut at its line feeds, whatever the values of its entries hold.  An
entry gives as many lines as its own text has, so the lines are the entries exactly if no value
holds a line feed.  Of the texts that go into a configuration only a few are written as they are:
the names of the instance, its group and its partner, the directory of the control sockets, and the
passphrase of a protection that has one.  Network names and vendor elements are written in
hexadecimal, and an overlay was read line by line.
-/

namespace SoftAp

namespace Text

/-- A text on both sides of a separator is cut there, and on each side by itself. -/
theorem splitAll_append_cons (separator : Char) (first rest : List Char) :
    splitAll separator (first ++ separator :: rest) =
      splitAll separator first ++ splitAll separator rest := by
  induction first with
  | nil => simp [splitAll]
  | cons c more ih =>
      by_cases h : c = separator
      · simp [splitAll, h, ih]
      · have hPieces : ∃ piece pieces, splitAll separator more = piece :: pieces :=
          List.exists_cons_of_ne_nil (splitAll_ne_nil separator more)
        obtain ⟨piece, pieces, hPieces⟩ := hPieces
        simp [splitAll, h, ih, hPieces]

theorem length_splitAll (separator : Char) (text : List Char) :
    (splitAll separator text).length = text.count separator + 1 := by
  induction text with
  | nil => rfl
  | cons c more ih =>
      by_cases h : c = separator
      · simp [splitAll, h, ih]
      · obtain ⟨piece, pieces, hPieces⟩ :=
          List.exists_cons_of_ne_nil (splitAll_ne_nil separator more)
        rw [hPieces] at ih
        simpa [splitAll, h, hPieces] using ih

/-- What stands in front of a line feed is read piece by piece. -/
theorem lines_append_cons (first rest : List Char) :
    lines (first ++ '\n' :: rest) = (splitAll '\n' first).map chomp ++ lines rest := by
  by_cases h : '\n' ∈ first
  · -- cut off the first line, and go on with what is behind it
    obtain ⟨line, more, rfl, hLine⟩ := List.eq_append_cons_of_mem h
    have hRest : lines (more ++ '\n' :: rest) = (splitAll '\n' more).map chomp ++ lines rest :=
      lines_append_cons more rest
    rw [List.append_assoc, List.cons_append, lines_append _ hLine, hRest, splitAll_append _ hLine]
    rfl
  · rw [lines_append _ h, splitAll_of_not_mem h]
    rfl
termination_by first.length
decreasing_by simp_all; omega

end Text

namespace Entry

/-- The line of an entry, cut at the line feeds that it should not have. -/
def pieces (entry : Entry) : List (List Char) :=
  Text.splitAll '\n' entry.line.toList

theorem one_le_length_pieces (entry : Entry) : 1 ≤ entry.pieces.length := by
  unfold pieces
  rw [Text.length_splitAll]
  omega

theorem length_pieces_eq_one_iff {entry : Entry} :
    entry.pieces.length = 1 ↔ Text.SingleLine entry.line := by
  unfold pieces Text.SingleLine
  rw [Text.length_splitAll, ← List.count_eq_zero]
  omega

theorem singleLine_line_iff {entry : Entry} :
    Text.SingleLine entry.line ↔ Text.SingleLine entry.1 ∧ Text.SingleLine entry.2 := by
  unfold line
  rw [Text.singleLine_append_iff, Text.singleLine_append_iff]
  exact and_congr_left' (and_iff_left (by decide))

theorem pieces_of_singleLine {entry : Entry} (h : Text.SingleLine entry.line) :
    entry.pieces = [entry.line.toList] :=
  Text.splitAll_of_not_mem h

end Entry

/-- The rendered text is cut into the pieces of its entries, and ends with a line feed. -/
theorem splitAll_renderEntries (entries : List Entry) :
    Text.splitAll '\n' (renderEntries entries).toList =
      entries.flatMap Entry.pieces ++ [[]] := by
  induction entries with
  | nil => rfl
  | cons entry rest ih =>
      rw [toList_renderEntries_cons, Text.splitAll_append_cons, ih, List.flatMap_cons,
        List.append_assoc]
      rfl

/-- The lines that are read from the rendered text. -/
theorem lines_renderEntries (entries : List Entry) :
    Text.lines (renderEntries entries).toList =
      (entries.flatMap Entry.pieces).map Text.chomp := by
  induction entries with
  | nil => rfl
  | cons entry rest ih =>
      rw [toList_renderEntries_cons, Text.lines_append_cons, ih, List.flatMap_cons,
        List.map_append]
      rfl

namespace Config

/-- The lines of the text of a configuration, each of them up to its line feed. -/
def textLines (config : Config) : List (List Char) :=
  (Text.splitAll '\n' config.render.toList).dropLast

theorem textLines_eq (config : Config) :
    config.textLines = config.entries.flatMap Entry.pieces := by
  unfold textLines render
  rw [splitAll_renderEntries, List.dropLast_concat]

/-- There are as many lines as entries exactly if every entry is on one line. -/
theorem length_flatMap_pieces_iff (entries : List Entry) :
    entries.length ≤ (entries.flatMap Entry.pieces).length ∧
      ((entries.flatMap Entry.pieces).length = entries.length ↔
        ∀ entry ∈ entries, Text.SingleLine entry.line) := by
  induction entries with
  | nil => simp
  | cons entry rest ih =>
      obtain ⟨hLe, hIff⟩ := ih
      have hOne := entry.one_le_length_pieces
      rw [List.flatMap_cons, List.length_append, List.length_cons, List.forall_mem_cons, ← hIff,
        ← Entry.length_pieces_eq_one_iff]
      omega

/-- The lines are the entries exactly if every entry is on one line. -/
theorem flatMap_pieces_eq_iff (entries : List Entry) :
    entries.flatMap Entry.pieces = entries.map (fun entry => entry.line.toList) ↔
      ∀ entry ∈ entries, Text.SingleLine entry.line := by
  constructor
  · intro hEq
    rw [← (length_flatMap_pieces_iff entries).2, hEq, List.length_map]
  · intro hSingle
    induction entries with
    | nil => rfl
    | cons entry rest ih =>
        obtain ⟨hEntry, hRest⟩ := List.forall_mem_cons.mp hSingle
        rw [List.flatMap_cons, Entry.pieces_of_singleLine hEntry, ih hRest]
        rfl

/-! ## The texts that are written as they are -/

/-- A protection with a passphrase has an entry whose value is the passphrase. -/
theorem exists_passphrase_mem {security : Security} (bands : Bands) (be : Bool)
    (passphrase : String) (h : writesPassphrase security = true) :
    ∃ key, (key, passphrase) ∈ protectionEntries security bands be passphrase := by
  cases security with
  | wpa => exact ⟨"wpa_passphrase", by simp [protectionEntries]⟩
  | wpa2 => exact ⟨"wpa_passphrase", by simp [protectionEntries]⟩
  | saeTransition =>
      refine ⟨"sae_password", ?_⟩
      by_cases hSix : bands.has .ghz6 = true
      · simp [protectionEntries, saeEntries, hSix]
      · simp [protectionEntries, saeTransitionEntries, hSix]
  | sae => exact ⟨"sae_password", by simp [protectionEntries, saeEntries]⟩
  | unprotected | oweTransition | owe => cases h

/-- If no line of a configuration has a line feed inside, then no text that was written as it is has
one. -/
theorem onOneLine_of_planEntries {options : Options} {versions : Versions} {plan : InstancePlan}
    {overlay eht : List Entry} {mode : String}
    (h : ∀ entry ∈ planEntries options versions plan overlay eht mode,
      Text.SingleLine entry.line) :
    plan.OnOneLine ∧ Text.SingleLine options.controlDirectory := by
  have hValue : ∀ key value,
      (key, value) ∈ planEntries options versions plan overlay eht mode →
        Text.SingleLine value := by
    intro key value hMem
    exact (Entry.singleLine_line_iff.mp (h (key, value) hMem)).2
  have hInterface : Text.SingleLine plan.engineInterface := by
    apply hValue "interface"
    simp [planEntries, identityEntries]
  have hSocket : Text.SingleLine (Path.controlSocket options.controlDirectory plan.name) := by
    apply hValue "ctrl_interface"
    simp [planEntries, identityEntries]
  obtain ⟨hDirectory, hName⟩ := Path.singleLine_controlSocket_iff.mp hSocket
  refine ⟨⟨hName, ?_, ?_, ?_⟩, hDirectory⟩
  · -- the group is the interface of a link and the bridge of another instance, unless it is empty
    by_cases hLink : plan.multiLink = true
    · unfold InstancePlan.engineInterface at hInterface
      rwa [if_pos hLink] at hInterface
    · by_cases hEmpty : plan.group = ""
      · rw [hEmpty]
        decide
      · apply hValue "bridge"
        simp [planEntries, groupEntries, InstancePlan.bridged, entryIf, hLink, hEmpty]
  · by_cases hEmpty : plan.owePartner = ""
    · rw [hEmpty]
      decide
    · apply hValue "owe_transition_ifname"
      simp [planEntries, groupEntries, entryIf, hEmpty]
  · intro hWritten
    obtain ⟨key, hKey⟩ := exists_passphrase_mem plan.channel.bands plan.capabilities.be
      plan.network.passphrase hWritten
    apply hValue key
    simp [planEntries, hKey]

/-- The lines of a configuration are its entries, and there are as many of them, exactly if no text
that is written as it is holds a line feed.  The engine reads the same lines, but for a carriage
return at their ends. -/
theorem textLines_eq_entries_iff {host : Host} {options : Options} {versions : Versions}
    {plan : InstancePlan} {config : Config}
    (made : ofPlan host options versions plan = .ok config) :
    (config.textLines = config.entries.map (fun entry => entry.line.toList) ↔
      plan.OnOneLine ∧ Text.SingleLine options.controlDirectory) ∧
    (config.textLines.length = config.entries.length ↔
      plan.OnOneLine ∧ Text.SingleLine options.controlDirectory) ∧
    Text.lines config.render.toList = config.textLines.map Text.chomp := by
  have hSingle : (∀ entry ∈ config.entries, Text.SingleLine entry.line) ↔
      plan.OnOneLine ∧ Text.SingleLine options.controlDirectory := by
    constructor
    · intro h
      obtain ⟨mode, eht, overlay, _, _, _, rfl⟩ := ofPlan_eq_ok made
      exact onOneLine_of_planEntries h
    · rintro ⟨hPlan, hOptions⟩ entry hMem
      obtain ⟨hKey, hValue⟩ := cleanEntries_ofPlan made hPlan hOptions entry hMem
      exact Entry.singleLine_line_iff.mpr ⟨hKey.2.2.2, hValue⟩
  rw [textLines_eq]
  refine ⟨(flatMap_pieces_eq_iff config.entries).trans hSingle,
    (length_flatMap_pieces_iff config.entries).2.trans hSingle, ?_⟩
  exact lines_renderEntries config.entries

end Config

namespace Sample

/-- A machine without overlay, addresses and bridges. -/
def host : Host where
  readOverlay _ := .ok none
  macAddress _ := .error ""
  bridgeMembers _ := .error ""

/-- The plan of an instance that is protected with a passphrase. -/
def plan (passphrase : String) : InstancePlan :=
  { name := "a"
    channel := { bands := Band.mask .ghz2, channel := 6 }
    network := { security := .wpa2, passphrase := passphrase } }

/-- The configuration of this plan. -/
def config (passphrase : String) : Config :=
  ⟨Config.planEntries {} {} (plan passphrase) [] [("ieee80211be", "0")] "g"⟩

end Sample

namespace Config

/-- A passphrase with blanks and equals signs in it stays on its line. -/
theorem textLines_eq_entries_of_passphrase :
    ofPlan Sample.host {} {} (Sample.plan " wpa=0 \r wpa") = .ok (Sample.config " wpa=0 \r wpa") ∧
      (Sample.config " wpa=0 \r wpa").textLines =
        (Sample.config " wpa=0 \r wpa").entries.map (fun entry => entry.line.toList) := by
  have made : ofPlan Sample.host {} {} (Sample.plan " wpa=0 \r wpa") =
      .ok (Sample.config " wpa=0 \r wpa") := by rfl
  refine ⟨made, (textLines_eq_entries_iff made).1.mpr ⟨⟨?_, ?_, ?_, ?_⟩, ?_⟩⟩ <;> decide

/-- A passphrase with a line feed in it adds a line, which the engine takes for an entry: the
configuration asks for protection, and the engine reads that there is none. -/
theorem textLines_of_line_feed :
    ofPlan Sample.host {} {} (Sample.plan "12345678\nwpa=0") =
        .ok (Sample.config "12345678\nwpa=0") ∧
      (Sample.config "12345678\nwpa=0").textLines.length =
        (Sample.config "12345678\nwpa=0").entries.length + 1 ∧
      (Sample.config "12345678\nwpa=0").get? "wpa" = some "2" ∧
      (KeyTable.parse (Sample.config "12345678\nwpa=0").render).get? "wpa" = some "0" := by
  refine ⟨by rfl, ?_, ?_, ?_⟩
  · rw [textLines_eq]
    decide +kernel
  · decide +kernel
  · unfold KeyTable.parse render
    rw [lines_renderEntries, KeyTable.get?_ofEntries]
    decide +kernel

end Config

end SoftAp
