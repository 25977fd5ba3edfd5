import RemoteDisplay.Config.File
import RemoteDisplay.Proofs.Toml.Document
import RemoteDisplay.Proofs.Toml.Runs

/-!
# Saved settings load back

The document for settings is read as three sections with one entry for each setting that has a value,
and taking these entries in order gives the settings back. So settings that make sense are loaded as
they were saved. They are not saved if a number does not fit into a document, and saving traps if too
many marks stand in a row.
-/

namespace RemoteDisplay

open Toml (Value Entries Statement Reads Bare)

/-! ## Values -/

namespace Config

theorem asNat_natCast {bound n : Nat} (h : n < bound) : asNat bound (.integer n) = .ok n := by
  have hrange : (0 : Int) ≤ n ∧ (n : Int) ≤ bound - 1 := by omega
  simp only [asNat, asInteger, if_pos hrange]
  rfl

theorem asU32_toNat (n : UInt32) : asU32 (.integer n.toNat) = .ok n := by
  rw [asU32, asNat_natCast n.toNat_lt]
  simp [bind, Except.bind, pure, Except.pure]

theorem asU64_toNat (n : UInt64) : asU64 (.integer n.toNat) = .ok n := by
  rw [asU64, asNat_natCast n.toNat_lt]
  simp [bind, Except.bind, pure, Except.pure]

theorem asI32_toInt (n : Int32) : asI32 (.integer n.toInt) = .ok n := by
  have hleast := n.le_toInt
  have hmost := n.toInt_lt
  have hrange : -2147483648 ≤ n.toInt ∧ n.toInt ≤ 2147483647 := by omega
  simp only [asI32, asInteger, if_pos hrange]
  simp [bind, Except.bind, pure, Except.pure]

theorem asCompression_name (c : Compression) : asCompression (.string c.name) = .ok c := by
  cases c <;> rfl

/-! ## Lines -/

/-- The line for an entry. -/
def entryLine : String × Value → List Char
  | (name, .string s) => textLine name s
  | (name, .integer n) => numberLine name n
  | _ => []

/-- The entry has a name without marks, and its value is a text or an integer of 64 bits. -/
def Plain (e : String × Value) : Prop :=
  Bare e.1.toList ∧
    match e.2 with
    | .string _ => True
    | .integer n => -9223372036854775808 ≤ n ∧ n ≤ 9223372036854775807
    | _ => False

theorem plain_text {name : String} (h : Bare name.toList) (s : String) :
    Plain (name, .string s) :=
  ⟨h, trivial⟩

theorem plain_nat {name : String} (h : Bare name.toList) {n : Nat} (hn : n ≤ maxDocumentInteger) :
    Plain (name, .integer n) := by
  unfold maxDocumentInteger at hn
  exact ⟨h, by omega⟩

theorem plain_word {name : String} (h : Bare name.toList) (n : UInt32) :
    Plain (name, .integer n.toNat) := by
  have hlt := n.toNat_lt
  exact plain_nat h (by unfold maxDocumentInteger; omega)

theorem plain_int32 {name : String} (h : Bare name.toList) (n : Int32) :
    Plain (name, .integer n.toInt) := by
  have hleast := n.le_toInt
  have hmost := n.toInt_lt
  exact ⟨h, by omega⟩

theorem reads_entryLine {e : String × Value} (h : Plain e) :
    Reads (entryLine e) [.entry [] e.1 e.2] := by
  obtain ⟨name, v⟩ := e
  obtain ⟨hname, hv⟩ := h
  cases v with
  | string s =>
    have hread := Toml.reads_entry hname (Toml.denotes_text s)
    rw [String.ofList_toList] at hread
    exact hread
  | integer n =>
    have hread := Toml.reads_entry hname (Toml.denotes_number hv)
    rw [String.ofList_toList] at hread
    exact hread
  | _ => exact hv.elim

theorem reads_entries {es : Entries} (h : ∀ e ∈ es, Plain e) :
    Reads (es.flatMap entryLine) (es.map fun e => .entry [] e.1 e.2) := by
  induction es with
  | nil => exact Toml.reads_nil
  | cons e es ih =>
    exact (reads_entryLine (h e List.mem_cons_self)).append
      (ih fun e' he' => h e' (List.mem_cons_of_mem e he'))

theorem reads_section (name : String) {es : Entries} (hname : Bare name.toList)
    (h : ∀ e ∈ es, Plain e) :
    Reads (sectionHeader name ++ es.flatMap entryLine) (Toml.sectionOf (name, es)) := by
  have hheader := Toml.reads_header hname
  rw [String.ofList_toList] at hheader
  exact hheader.append (reads_entries h)

end Config

open Config

/-! ## Sections -/

namespace ServerSettings

/-- The entries of the section. -/
def entries (s : ServerSettings) : Entries :=
  [("addr", .string s.address), ("port", .integer s.port.toNat)] ++
    (s.password.map fun p => ("password", Value.string p)).toList ++
    (s.ticketLifetime.map fun n => ("ticket_lifetime_secs", Value.integer n.toNat)).toList ++
    [("compression", .string s.compression.name)]

theorem nodup_entries (s : ServerSettings) : (s.entries.map (·.1)).Nodup := by
  obtain ⟨address, port, password, ticket, compression⟩ := s
  cases password <;> cases ticket <;> simp [entries]

theorem render_eq (s : ServerSettings) : s.render = s.entries.flatMap entryLine := by
  obtain ⟨address, port, password, ticket, compression⟩ := s
  cases password <;> cases ticket <;> simp [render, entries, entryLine]

theorem plain_entries (s : ServerSettings) : ∀ e ∈ s.entries, Plain e := by
  have haddress : Plain ("addr", .string s.address) := plain_text (by decide) _
  have hport : Plain ("port", .integer s.port.toNat) := by
    have hlt := s.port.toNat_lt
    exact plain_nat (by decide) (by unfold maxDocumentInteger; omega)
  have hpassword : ∀ p, Plain ("password", .string p) := plain_text (by decide)
  have hticket : ∀ n : UInt32, Plain ("ticket_lifetime_secs", .integer n.toNat) :=
    fun n => plain_word (by decide) n
  have hcompression : Plain ("compression", .string s.compression.name) := plain_text (by decide) _
  intro e he
  simp only [entries, List.mem_append, List.mem_cons, List.not_mem_nil, or_false,
    Option.mem_toList, Option.map_eq_some_iff] at he
  rcases he with (((rfl | rfl) | ⟨p, -, rfl⟩) | ⟨n, -, rfl⟩) | rfl
  · exact haddress
  · exact hport
  · exact hpassword p
  · exact hticket n
  · exact hcompression

theorem read_entries (s : ServerSettings) :
    readSection names set {} (.table .header s.entries) = .ok s := by
  obtain ⟨address, port, password, ticket, compression⟩ := s
  have hport := asNat_natCast port.toNat_lt
  cases password <;> cases ticket <;>
    simp [readSection, entries, set, asText, hport, asU32_toNat, asCompression_name, bind,
      Except.bind, pure, Except.pure]

end ServerSettings

namespace OutputSettings

/-- The entries of the section. -/
def entries (s : OutputSettings) : Entries :=
  [("x", .integer s.x.toInt), ("y", .integer s.y.toInt), ("width", .integer s.width.toNat),
    ("height", .integer s.height.toNat)]

theorem nodup_entries (s : OutputSettings) : (s.entries.map (·.1)).Nodup := by
  simp [entries]

theorem render_eq (s : OutputSettings) : s.render = s.entries.flatMap entryLine := by
  simp [render, entries, entryLine]

theorem plain_entries (s : OutputSettings) : ∀ e ∈ s.entries, Plain e := by
  simp only [entries, List.forall_mem_cons]
  exact ⟨plain_int32 (by decide) s.x, plain_int32 (by decide) s.y, plain_word (by decide) s.width,
    plain_word (by decide) s.height, fun _ he => absurd he List.not_mem_nil⟩

theorem read_entries (s : OutputSettings) :
    readSection names set {} (.table .header s.entries) = .ok s := by
  simp [readSection, entries, set, asI32_toInt, asU32_toNat, bind, Except.bind, pure, Except.pure]

end OutputSettings

namespace DisplaySettings

/-- The entries of the section. -/
def entries (s : DisplaySettings) : Entries :=
  [("surface_capacity", .integer s.surfaceCapacity.toNat),
    ("ring_capacity", .integer s.ringCapacity.toNat),
    ("enqueue_attempts", .integer s.enqueueAttempts.toNat),
    ("enqueue_backoff_us", .integer s.enqueueBackoff.toNat),
    ("wakeup_interval_ms", .integer s.wakeupInterval.toNat),
    ("mm_time_skew_ms", .integer s.clockSkew.toNat), ("background", .string s.background)]

theorem nodup_entries (s : DisplaySettings) : (s.entries.map (·.1)).Nodup := by
  simp [entries]

theorem render_eq (s : DisplaySettings) : s.render = s.entries.flatMap entryLine := by
  simp [render, entries, entryLine]

theorem plain_entries (s : DisplaySettings) (hsurfaces : s.surfaceCapacity.toNat ≤ maxDocumentInteger)
    (hring : s.ringCapacity.toNat ≤ maxDocumentInteger)
    (hbackoff : s.enqueueBackoff.toNat ≤ maxDocumentInteger) : ∀ e ∈ s.entries, Plain e := by
  simp only [entries, List.forall_mem_cons]
  exact ⟨plain_nat (by decide) hsurfaces, plain_nat (by decide) hring,
    plain_word (by decide) s.enqueueAttempts, plain_nat (by decide) hbackoff,
    plain_word (by decide) s.wakeupInterval, plain_word (by decide) s.clockSkew,
    plain_text (by decide) s.background, fun _ he => absurd he List.not_mem_nil⟩

theorem read_entries (s : DisplaySettings) :
    readSection names set {} (.table .header s.entries) = .ok s := by
  simp [readSection, entries, set, asText, asU32_toNat, asU64_toNat, bind, Except.bind, pure,
    Except.pure]

end DisplaySettings

/-! ## Settings -/

namespace Settings

/-- The sections of the settings with their entries. -/
def sections (s : Settings) : List (String × Entries) :=
  [("server", s.server.entries), ("output", s.output.entries), ("display", s.display.entries)]

theorem fitsDocument_iff (s : Settings) :
    s.fitsDocument = true ↔ s.display.surfaceCapacity.toNat ≤ maxDocumentInteger ∧
      s.display.ringCapacity.toNat ≤ maxDocumentInteger ∧
      s.display.enqueueBackoff.toNat ≤ maxDocumentInteger := by
  simp [fitsDocument]

theorem reads_document (s : Settings) (h : s.fitsDocument = true) :
    Reads s.document.toList (s.sections.flatMap Toml.sectionOf) := by
  obtain ⟨hsurfaces, hring, hbackoff⟩ := s.fitsDocument_iff.mp h
  have hserver := reads_section "server" (by decide) s.server.plain_entries
  have houtput := reads_section "output" (by decide) s.output.plain_entries
  have hdisplay := reads_section "display" (by decide)
    (s.display.plain_entries hsurfaces hring hbackoff)
  have hread := (((hserver.append Toml.reads_blank).append houtput).append
    Toml.reads_blank).append hdisplay
  simpa [document, sections, ServerSettings.render_eq, OutputSettings.render_eq,
    DisplaySettings.render_eq] using hread

theorem parse_document (s : Settings) (h : s.fitsDocument = true) :
    Toml.parse s.document = some (s.sections.map fun t => (t.1, .table .header t.2)) := by
  have hparse := (s.reads_document h).parse (by simp [document, sectionHeader])
  rw [String.ofList_toList] at hparse
  rw [hparse, Toml.tableOf_sections]
  · simp [sections]
  · simp only [sections, List.forall_mem_cons]
    exact ⟨s.server.nodup_entries, s.output.nodup_entries, s.display.nodup_entries,
      fun _ ht => absurd ht List.not_mem_nil⟩

theorem ofDocument_document (s : Settings) (h : s.fitsDocument = true) :
    ofDocument s.document = .ok s := by
  simp [ofDocument, s.parse_document h, sections, set, ServerSettings.read_entries,
    OutputSettings.read_entries, DisplaySettings.read_entries, bind, Except.bind, pure, Except.pure]

/-- The document for settings that make sense loads as these settings. -/
theorem load_document (s : Settings) (hvalid : s.validate = .ok ()) (h : s.fitsDocument = true) :
    load s.document = .ok s := by
  simp [load, s.ofDocument_document h, hvalid, bind, Except.bind, pure, Except.pure]

/-- All numbers of the settings. -/
def integers (s : Settings) : List Int :=
  [(s.server.port.toNat : Int)] ++ (s.server.ticketLifetime.map fun n => (n.toNat : Int)).toList ++
    [s.output.x.toInt, s.output.y.toInt, (s.output.width.toNat : Int),
      (s.output.height.toNat : Int)] ++
    [(s.display.surfaceCapacity.toNat : Int), (s.display.ringCapacity.toNat : Int),
      (s.display.enqueueAttempts.toNat : Int), (s.display.enqueueBackoff.toNat : Int),
      (s.display.wakeupInterval.toNat : Int), (s.display.clockSkew.toNat : Int)]

/-- All texts of the settings that are not names. -/
def texts (s : Settings) : List String :=
  s.server.address :: s.display.background :: s.server.password.toList

/-- Nowhere 256 equal quotation marks stand in a row. -/
def ShortRuns (s : Settings) : Prop :=
  ∀ text ∈ s.texts, ∀ mark ∈ ['"', '\''], ¬ List.replicate 256 mark <:+: text.toList

theorem fitsDocument_iff_integers (s : Settings) :
    s.fitsDocument = true ↔ ∀ n ∈ s.integers, n ≤ 9223372036854775807 := by
  have hport := s.server.port.toNat_lt
  have hticket : ∀ n ∈ (s.server.ticketLifetime.map fun n => (n.toNat : Int)).toList,
      n ≤ 9223372036854775807 := by
    intro n hn
    simp only [Option.mem_toList, Option.map_eq_some_iff] at hn
    obtain ⟨m, -, rfl⟩ := hn
    have hm := m.toNat_lt
    omega
  have hx := s.output.x.toInt_lt
  have hy := s.output.y.toInt_lt
  have hwidth := s.output.width.toNat_lt
  have hheight := s.output.height.toNat_lt
  have hattempts := s.display.enqueueAttempts.toNat_lt
  have hwakeup := s.display.wakeupInterval.toNat_lt
  have hskew := s.display.clockSkew.toNat_lt
  simp only [fitsDocument_iff, integers, List.forall_mem_append, List.forall_mem_cons,
    List.not_mem_nil, false_implies, implies_true, and_true, maxDocumentInteger]
  constructor
  · rintro ⟨hsurfaces, hring, hbackoff⟩
    exact ⟨⟨⟨by omega, hticket⟩, by omega⟩, by omega⟩
  · rintro ⟨-, hsurfaces, hring, -, hbackoff, -⟩
    omega

theorem runsFit_iff (s : Settings) : s.runsFit = true ↔ s.ShortRuns := by
  simp only [runsFit, ShortRuns, texts, List.all_eq_true, Toml.runsFit_iff]

theorem fromUTF8?_toUTF8 (text : String) : String.fromUTF8? text.toUTF8 = some text := by
  unfold String.fromUTF8?
  rw [String.toUTF8_eq_toByteArray, dif_pos text.isValidUTF8]
  rfl

theorem loadBytes_toUTF8 (text : String) : loadBytes (some text.toUTF8) = load text := by
  rw [loadBytes, Option.bind_some, fromUTF8?_toUTF8]

theorem expand?_of_head {home : Option String} {path : String}
    (h : (HomePath.components path.toList).head? ≠ some ['~']) :
    HomePath.expand? home path = some path := by
  have hnone : HomePath.afterTilde? path = none := by
    unfold HomePath.afterTilde?
    split
    · rename_i hhead
      rw [hhead] at h
      exact absurd rfl h
    · rfl
  simp [HomePath.expand?, hnone]

/-! ## Saving -/

section Saving

variable {s : Settings} {files : Files} {path : String}

theorem save_of_large (h : s.fitsDocument = false) : s.save files path = .ok none := by
  simp [save, render, h, bind, Except.bind, pure, Except.pure]

theorem save_of_runs (h : s.fitsDocument = true) (hruns : s.runsFit = false) :
    s.save files path = .error .addOverflow := by
  simp [save, render, h, hruns, bind, Except.bind, throw, throwThe, MonadExceptOf.throw]

theorem save_of_fits (h : s.fitsDocument = true) (hruns : s.runsFit = true) :
    s.save files path =
      .ok (some fun p => if p = path then some s.document.toUTF8 else files p) := by
  simp [save, render, h, hruns, bind, Except.bind, pure, Except.pure]

theorem loadFile_of_document {home : Option String} (hvalid : s.validate = .ok ())
    (h : s.fitsDocument = true) (hfile : files path = some s.document.toUTF8)
    (hpath : (HomePath.components path.toList).head? ≠ some ['~']) :
    loadFile home files path = some (.ok s) := by
  rw [loadFile, expand?_of_head hpath, Option.map_some, hfile, loadBytes_toUTF8,
    s.load_document hvalid h]

end Saving

/-- Saving fails exactly when a number does not fit into a document. Settings that make sense and fit
load from the saved file as they were, and no other file is changed; but saving traps if 256 equal
marks stand in a row. -/
theorem save_loads_back (s : Settings) (home : Option String) (files : Files) (path : String)
    (hvalid : s.validate = .ok ())
    (hpath : (HomePath.components path.toList).head? ≠ some ['~']) :
    (s.save files path = .ok none ↔ ∃ n ∈ s.integers, 9223372036854775807 < n) ∧
      ((∀ n ∈ s.integers, n ≤ 9223372036854775807) →
        (s.ShortRuns → ∃ files', s.save files path = .ok (some files') ∧
          (∀ other, other ≠ path → files' other = files other) ∧
          loadFile home files' path = some (.ok s)) ∧
        (¬ s.ShortRuns → s.save files path = .error .addOverflow)) := by
  have hsmall := s.fitsDocument_iff_integers
  have hlarge : (∃ n ∈ s.integers, 9223372036854775807 < n) ↔ s.fitsDocument = false := by
    rw [← Bool.not_eq_true, hsmall]
    simp
  rw [hlarge, ← hsmall, ← s.runsFit_iff, Bool.not_eq_true]
  refine ⟨⟨?_, save_of_large⟩, fun hfits => ⟨?_, save_of_runs hfits⟩⟩
  · intro hsave
    cases hfits : s.fitsDocument with
    | false => rfl
    | true =>
      cases hruns : s.runsFit with
      | false =>
        rw [save_of_runs hfits hruns] at hsave
        simp at hsave
      | true =>
        rw [save_of_fits hfits hruns] at hsave
        simp at hsave
  · intro hruns
    refine ⟨_, save_of_fits hfits hruns, ?_, ?_⟩
    · intro other hother
      exact if_neg hother
    · exact loadFile_of_document hvalid hfits (if_pos rfl) hpath

/-- Settings with marks, a backslash, a line feed and a control character in their texts, and with
nothing left out. -/
def awkward : Settings :=
  { server := {
      address := "it's \"::1\""
      password := some "\"\"\"'''\\\n\x1b"
      ticketLifetime := some 30 } }

theorem save_loads_back_awkward :
    awkward.validate = .ok () ∧
      (HomePath.components "bridge.toml".toList).head? ≠ some ['~'] ∧
      ∃ files', awkward.save (fun _ => none) "bridge.toml" = .ok (some files') ∧
        loadFile none files' "bridge.toml" = some (.ok awkward) := by
  have hvalid : awkward.validate = .ok () := rfl
  have hpath : (HomePath.components "bridge.toml".toList).head? ≠ some ['~'] := by decide
  have hsmall : ∀ n ∈ awkward.integers, n ≤ 9223372036854775807 := by decide
  have hruns : awkward.ShortRuns := awkward.runsFit_iff.mp (by decide)
  obtain ⟨files', hsave, -, hload⟩ :=
    ((save_loads_back awkward none (fun _ => none) "bridge.toml" hvalid hpath).2 hsmall).1 hruns
  exact ⟨hvalid, hpath, files', hsave, hload⟩

/-- A password of 256 apostrophes. -/
def apostrophes : Settings :=
  { server := { password := some (String.ofList (List.replicate 256 '\'')) } }

/-- Settings that make sense and fit into a document are not saved because of their marks. -/
theorem save_traps_on_apostrophes :
    apostrophes.validate = .ok () ∧ (∀ n ∈ apostrophes.integers, n ≤ 9223372036854775807) ∧
      ∀ files path, apostrophes.save files path = .error .addOverflow := by
  have hfits : apostrophes.fitsDocument = true := by decide
  have hruns : apostrophes.runsFit = false := by
    rw [← Bool.not_eq_true, apostrophes.runsFit_iff]
    intro hshort
    apply hshort _ (List.mem_cons_of_mem _ (List.mem_cons_of_mem _ List.mem_cons_self)) '\''
      (List.mem_cons_of_mem _ List.mem_cons_self)
    exact ⟨[], [], by rw [List.nil_append, List.append_nil, String.toList_ofList]⟩
  exact ⟨rfl, apostrophes.fitsDocument_iff_integers.mp hfits, fun _ _ => save_of_runs hfits hruns⟩

end Settings

end RemoteDisplay
