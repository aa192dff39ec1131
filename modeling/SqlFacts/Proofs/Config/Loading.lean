import SqlFacts.Proofs.Config.Document
import SqlFacts.Proofs.Toml.Refusal

/-!
# Loading a configuration

What is loaded from a file is the configuration of the document in it, or the default one. A file
is either loaded or refused, but for three sorts of files: those whose bytes are no text, those in
which a decimal integer of too many digits is met, and those in which a value is nested deeper than
the stack has room for. Their failures are none of the configuration.
-/

namespace SqlFacts

namespace ConfigFile

/-- The bytes of the file are no text. -/
def HoldsNoText (file : ConfigFile) : Prop := ∃ bytes, file = .file bytes ∧ ¬ bytes.IsValidUTF8

/-- The file holds a document in which a decimal integer of so many digits is met, too many. -/
def MeetsLongInteger (file : ConfigFile) (room count : Nat) : Prop :=
  ∃ s : String, file = .file s.toUTF8 ∧
    Toml.parse room (Text.unifyLineEnds s.toList) = .error (.integerTooLong count)

/-- The file holds a document in which a value is met that is nested too deep for the room. -/
def MeetsDeepValue (file : ConfigFile) (room : Nat) : Prop :=
  ∃ s : String, file = .file s.toUTF8 ∧
    Toml.parse room (Text.unifyLineEnds s.toList) = .error .tooDeep

/-- A file that is there and can be opened holds a text or bytes that are none. -/
theorem missing_or_directory_or_bytes (file : ConfigFile) :
    file = .missing ∨ file = .directory ∨ file.HoldsNoText ∨
      ∃ s : String, file = .file s.toUTF8 := by
  cases file with
  | missing => exact .inl rfl
  | directory => exact .inr (.inl rfl)
  | file bytes =>
    by_cases hvalid : bytes.IsValidUTF8
    · exact .inr (.inr (.inr ⟨String.fromUTF8 bytes hvalid, rfl⟩))
    · exact .inr (.inr (.inl ⟨bytes, rfl, hvalid⟩))

end ConfigFile

namespace Config

variable {room : Nat}

/-! ### The outcome of each sort of file -/

/-- A file that holds the bytes of a text is read as this text. -/
theorem load_toUTF8 (room : Nat) (s : String) : load room (.file s.toUTF8) = ofText room s := by
  have hread : String.fromUTF8? s.toUTF8 = some s := dif_pos s.isValidUTF8
  rw [load, hread]

/-- Bytes that are no text are told apart from all else. -/
theorem load_of_holdsNoText {file : ConfigFile} (h : file.HoldsNoText) :
    load room file = .error .notText := by
  obtain ⟨bytes, rfl, hinvalid⟩ := h
  have hread : String.fromUTF8? bytes = none := dif_neg hinvalid
  rw [load, hread]

/-- A file with a document is loaded as this document. -/
theorem load_of_parse {s : String} {document : Toml.Table}
    (h : Toml.parse room (Text.unifyLineEnds s.toList) = .ok document) :
    load room (.file s.toUTF8) = (ofDocument document).mapError .refused := by
  rw [load_toUTF8, ofText, h]

/-- An integer of too many digits is told apart from all else. -/
theorem load_of_meetsLongInteger {file : ConfigFile} {count : Nat}
    (h : file.MeetsLongInteger room count) : load room file = .error (.integerTooLong count) := by
  obtain ⟨s, rfl, hmeets⟩ := h
  rw [load_toUTF8, ofText, hmeets]

/-- So is a value that is nested too deep. -/
theorem load_of_meetsDeepValue {file : ConfigFile} (h : file.MeetsDeepValue room) :
    load room file = .error .tooDeep := by
  obtain ⟨s, rfl, hmeets⟩ := h
  rw [load_toUTF8, ofText, hmeets]

/-- A configuration that is loaded is the default one or that of a document. -/
theorem eq_default_or_exists_document {file : ConfigFile} {config : Config}
    (h : load room file = .ok config) :
    config = {} ∨ ∃ document, ofDocument document = .ok config := by
  rcases file.missing_or_directory_or_bytes with rfl | rfl | hbytes | ⟨s, rfl⟩
  · cases h
    exact .inl rfl
  · cases h
  · rw [load_of_holdsNoText hbytes] at h
    cases h
  · right
    cases hparse : Toml.parse room (Text.unifyLineEnds s.toList) with
    | error error =>
      rw [load_toUTF8, ofText, hparse] at h
      cases error <;> cases h
    | ok document =>
      rw [load_of_parse hparse] at h
      cases hdocument : ofDocument document with
      | error error =>
        rw [hdocument] at h
        cases h
      | ok loaded =>
        rw [hdocument] at h
        cases h
        exact ⟨document, hdocument⟩

/-- Files are kept for at least a day. -/
theorem one_le_logRetentionDays {file : ConfigFile} {config : Config}
    (h : load room file = .ok config) : 1 ≤ config.logRetentionDays := by
  rcases eq_default_or_exists_document h with rfl | ⟨document, hdocument⟩
  · decide
  · obtain ⟨hfaults, rfl⟩ := ofDocument_eq_ok_iff.mp hdocument
    exact one_le_given (faults_eq_nil_iff.mp hfaults)

/-- A document is either loaded or refused. -/
theorem load_of_parse_cases {s : String} {document : Toml.Table}
    (h : Toml.parse room (Text.unifyLineEnds s.toList) = .ok document) :
    (∃ config, load room (.file s.toUTF8) = .ok config) ∨
      ∃ error, load room (.file s.toUTF8) = .error (.refused error) := by
  rw [load_of_parse h]
  cases ofDocument document with
  | error error => exact .inr ⟨error, rfl⟩
  | ok config => exact .inl ⟨config, rfl⟩

/-! ### Documents -/

/-- A document is accepted exactly if it is well typed, with the settings that it gives. Otherwise
its first fault is reported, in the order of the search, and no other fault has the same report. A
file with the document has the same outcome. -/
theorem document_outcome (document : Toml.Table) :
    (∀ config, ofDocument document = .ok config ↔
        WellTyped document ∧ config = given document) ∧
      (∀ error, ofDocument document = .error error ↔ (faults document).head? = some error) ∧
      (faults document).Sublist searched ∧
      (∀ path, (searched.map (ConfigError.message path)).Nodup) ∧
      ∀ (room : Nat) (s : String), Toml.parse room (Text.unifyLineEnds s.toList) = .ok document →
        load room (.file s.toUTF8) = (ofDocument document).mapError .refused := by
  refine ⟨?_, ?_, faults_sublist document, nodup_messages, ?_⟩
  · intro config
    rw [ofDocument_eq_ok_iff, faults_eq_nil_iff]
  · intro error
    exact ofDocument_eq_error_iff
  · intro room s hparse
    exact load_of_parse hparse

/-- A document with three settings of wrong types. -/
def mistypedSettings : Toml.Table :=
  [("parser", .table [("dialect", .integer 5)]),
    ("log", .table [("enabled", .text "yes"), ("retention_days", .boolean true)])]

/-- A truth value is no retention time, and this is found out first. -/
theorem ofDocument_mistypedSettings :
    ofDocument mistypedSettings = .error (.wrongType "retention_days" .integer) := by
  have hfirst : (faults mistypedSettings).head? = some (.wrongType "retention_days" .integer) := rfl
  exact ((document_outcome mistypedSettings).2.1 _).mpr hfirst

/-! ### Files that are neither loaded nor refused -/

/-- A file that fails in another way is neither loaded nor refused. -/
theorem not_loads_or_refuses {file : ConfigFile} {failure : ConfigFailure}
    (h : load room file = .error failure) (hother : ∀ error, failure ≠ .refused error) :
    ¬ ((∃ config, load room file = .ok config ∧ 1 ≤ config.logRetentionDays) ∨
      ∃ error, load room file = .error (.refused error)) := by
  rw [h]
  rintro (⟨config, hload, -⟩ | ⟨error, hload⟩)
  · cases hload
  · cases hload
    exact hother error rfl

/-- A file that meets nothing of the three sorts is loaded or refused. -/
theorem loads_or_refuses {file : ConfigFile} (hbytes : ¬ file.HoldsNoText)
    (hlong : ∀ count, ¬ file.MeetsLongInteger room count) (hdeep : ¬ file.MeetsDeepValue room) :
    (∃ config, load room file = .ok config ∧ 1 ≤ config.logRetentionDays) ∨
      ∃ error, load room file = .error (.refused error) := by
  rcases file.missing_or_directory_or_bytes with rfl | rfl | hnone | ⟨s, rfl⟩
  · exact .inl ⟨{}, rfl, by decide⟩
  · exact .inr ⟨.unreadable, rfl⟩
  · exact absurd hnone hbytes
  · cases hparse : Toml.parse room (Text.unifyLineEnds s.toList) with
    | ok document =>
      rcases load_of_parse_cases hparse with ⟨config, hload⟩ | hrefused
      · exact .inl ⟨config, hload, one_le_logRetentionDays hload⟩
      · exact .inr hrefused
    | error error =>
      cases error with
      | malformed =>
        right
        refine ⟨.unreadable, ?_⟩
        rw [load_toUTF8, ofText, hparse]
      | integerTooLong count => exact absurd ⟨s, rfl, hparse⟩ (hlong count)
      | tooDeep => exact absurd ⟨s, rfl, hparse⟩ hdeep

/-- A file is loaded, with a retention time of a day at least, or refused exactly if its bytes are
a text, if there are any, and neither an integer of too many digits nor a value that is nested too
deep for the room is met in it. Each failure is told apart. An integer that is met stands in the
document as a row of too many digits, and a document that is too deep has brackets and braces
enough for it, so that there is room enough for every document. What the first line gives to a
bare key is always met, be it such a row or as many brackets as there is no room for. -/
theorem loads_or_refuses_iff (room : Nat) (file : ConfigFile) :
    (((∃ config, load room file = .ok config ∧ 1 ≤ config.logRetentionDays) ∨
          ∃ error, load room file = .error (.refused error)) ↔
        ¬ file.HoldsNoText ∧ (∀ count, ¬ file.MeetsLongInteger room count) ∧
          ¬ file.MeetsDeepValue room) ∧
      (file.HoldsNoText → load room file = .error .notText) ∧
      (∀ count, file.MeetsLongInteger room count →
        load room file = .error (.integerTooLong count) ∧
          ∃ s : String, file = .file s.toUTF8 ∧
            Toml.HoldsLongInteger (Text.unifyLineEnds s.toList) count) ∧
      (file.MeetsDeepValue room →
        load room file = .error .tooDeep ∧
          ∃ s : String, file = .file s.toUTF8 ∧
            room < Toml.tableCalls * Toml.openings (Text.unifyLineEnds s.toList)) ∧
      (∀ (s : String) (name digits rest : List Char), file = .file s.toUTF8 →
        Text.unifyLineEnds s.toList = name ++ ' ' :: '=' :: ' ' :: (digits ++ rest) →
        name ≠ [] → (∀ c ∈ name, Toml.isBareKeyChar c = true) → Toml.LongRow digits rest →
          file.MeetsLongInteger room digits.length) ∧
      ∀ (s : String) (name rest : List Char) (count : Nat), file = .file s.toUTF8 →
        Text.unifyLineEnds s.toList =
          name ++ ' ' :: '=' :: ' ' :: (List.replicate count '[' ++ rest) →
        name ≠ [] → (∀ c ∈ name, Toml.isBareKeyChar c = true) →
        room < Toml.arrayCalls * count → file.MeetsDeepValue room := by
  refine ⟨?_, load_of_holdsNoText, ?_, ?_, ?_, ?_⟩
  · constructor
    · intro h
      refine ⟨?_, ?_, ?_⟩
      · intro hbytes
        exact not_loads_or_refuses (load_of_holdsNoText hbytes) (by simp) h
      · intro count hmeets
        exact not_loads_or_refuses (load_of_meetsLongInteger hmeets) (by simp) h
      · intro hmeets
        exact not_loads_or_refuses (load_of_meetsDeepValue hmeets) (by simp) h
    · rintro ⟨hbytes, hlong, hdeep⟩
      exact loads_or_refuses hbytes hlong hdeep
  · intro count hmeets
    refine ⟨load_of_meetsLongInteger hmeets, ?_⟩
    obtain ⟨s, hfile, hparse⟩ := hmeets
    exact ⟨s, hfile, Toml.holdsLongInteger_of_parse hparse⟩
  · intro hmeets
    refine ⟨load_of_meetsDeepValue hmeets, ?_⟩
    obtain ⟨s, hfile, hparse⟩ := hmeets
    exact ⟨s, hfile, Toml.lt_openings_of_parse hparse⟩
  · intro s name digits rest hfile hline hname hbare hrow
    refine ⟨s, hfile, ?_⟩
    rw [hline]
    exact Toml.parse_longInteger hname hbare hrow
  · intro s name rest count hfile hline hname hbare hroom
    refine ⟨s, hfile, ?_⟩
    rw [hline]
    exact Toml.parse_brackets hname hbare hroom rest

/-- A single byte that begins no character is neither loaded nor refused. -/
theorem load_invalidByte :
    let file := ConfigFile.file ⟨#[0xFF]⟩
    load Toml.standardRoom file = .error .notText ∧
      ¬ ((∃ config, load Toml.standardRoom file = .ok config ∧ 1 ≤ config.logRetentionDays) ∨
        ∃ error, load Toml.standardRoom file = .error (.refused error)) := by
  intro file
  have hbytes : file.HoldsNoText := ⟨_, rfl, by decide⟩
  obtain ⟨hiff, hnone, -⟩ := loads_or_refuses_iff Toml.standardRoom file
  refine ⟨hnone hbytes, ?_⟩
  intro h
  exact (hiff.mp h).1 hbytes

end Config

end SqlFacts
