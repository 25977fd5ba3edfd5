import Mathlib.Data.List.TakeWhile
import RemoteDisplay.CommandLine.Launch
import RemoteDisplay.Proofs.Config.Saved

/-!
# Options and the file of the settings

Options take precedence over the file, but they cannot make up for it: a file has to make sense as it
is before the options come in. What they can do is spoil it, and only by a blank host or by port zero.
-/

namespace RemoteDisplay

/-! ## What makes sense -/

theorem Text.trim_isEmpty (s : List Char) : (trim s).isEmpty = true ↔ ∀ c ∈ s, isBlank c = true := by
  rw [List.isEmpty_iff, trim, List.reverse_eq_nil_iff, List.dropWhile_eq_nil_iff]
  constructor
  · intro h
    apply List.dropWhile_eq_nil_iff.mp
    cases hrest : s.dropWhile isBlank with
    | nil => rfl
    | cons c rest =>
      -- the first character that is left over is not blank
      have hhead := List.head?_dropWhile_not isBlank s
      rw [hrest] at h hhead
      have hc : isBlank c = true := h c (by simp)
      simp [hc] at hhead
  · intro h
    rw [List.dropWhile_eq_nil_iff.mpr h]
    simp

theorem refuseIf_bind {c : Bool} {f : Fault} {k : Unit → Except Fault Unit} :
    (refuseIf c f >>= k) = .ok () ↔ c = false ∧ k () = .ok () := by
  cases c <;> simp [refuseIf, bind, Except.bind]

/-- The settings of a server that make sense. -/
structure ServerSettings.Sound (s : ServerSettings) : Prop where
  address : ∃ c ∈ s.address.toList, Text.isBlank c = false
  port : s.port ≠ 0
  password : s.ticketLifetime.isSome → s.password.isSome

theorem ServerSettings.validate_eq_ok (s : ServerSettings) : s.validate = .ok () ↔ s.Sound := by
  have hblank : (Text.trim s.address.toList).isEmpty = false ↔
      ∃ c ∈ s.address.toList, Text.isBlank c = false := by
    rw [← Bool.not_eq_true, Text.trim_isEmpty]
    simp
  have hpassword : refuseIf (s.ticketLifetime.isSome && s.password.isNone)
      .ticketWithoutPassword = .ok () ↔ (s.ticketLifetime.isSome → s.password.isSome) := by
    cases s.ticketLifetime <;> cases s.password <;> simp [refuseIf]
  rw [validate, refuseIf_bind, refuseIf_bind, hblank, hpassword, decide_eq_false_iff_not]
  exact ⟨fun ⟨h, h', h''⟩ => ⟨h, h', h''⟩, fun h => ⟨h.address, h.port, h.password⟩⟩

theorem Settings.validate_eq_ok (s : Settings) : s.validate = .ok () ↔
    s.server.Sound ∧ s.output.validate = .ok () ∧ s.display.validate = .ok () := by
  rw [← ServerSettings.validate_eq_ok, validate]
  cases s.server.validate <;> cases s.output.validate <;> simp [bind, Except.bind]

/-! ## Options over the file -/

namespace Options

/-- A given host is not blank, and a given port is not zero. -/
structure Sound (o : Options) : Prop where
  host : ∀ host, o.host = some host → ∃ c ∈ host.toList, Text.isBlank c = false
  port : o.port ≠ some 0

variable {o : Options} {s : Settings}

theorem sound_override (h : s.server.Sound) : (o.override s).server.Sound ↔ o.Sound := by
  constructor
  · intro h'
    refine ⟨fun host hhost => ?_, fun hport => h'.port ?_⟩
    · have haddress := h'.address
      rwa [override, hhost] at haddress
    · rw [override, hport]
      rfl
  · intro ho
    refine ⟨?_, ?_, ?_⟩
    · cases hhost : o.host with
      | none => simpa [override, hhost] using h.address
      | some host => simpa [override, hhost] using ho.host host hhost
    · cases hport : o.port with
      | none => simpa [override, hport] using h.port
      | some port => simpa [override, hport] using fun hzero => ho.port (hport.trans (congrArg some hzero))
    · intro hlifetime
      have hpassword := h.password hlifetime
      cases hgiven : o.password <;> simp [override, hgiven, hpassword]

theorem validate_override (h : s.validate = .ok ()) : (o.override s).validate = .ok () ↔ o.Sound := by
  obtain ⟨hserver, houtput, hdisplay⟩ := s.validate_eq_ok.mp h
  rw [Settings.validate_eq_ok, sound_override hserver]
  exact ⟨fun h' => h'.1, fun ho => ⟨ho, houtput, hdisplay⟩⟩

end Options

namespace Launch

variable {o : Options} {bytes : ByteArray} {text : String} {base : Settings} {content : PathContent}

theorem found_of_document (htext : String.fromUTF8? bytes = some text)
    (hbase : Settings.ofDocument text = .ok base) : found (.file bytes) =
      match base.validate with
      | .ok () => .ok (.file, base)
      | .error f => .error (.load (.invalid f)) := by
  rw [found, Settings.loadBytes, Option.bind_some, htext]
  simp only [Settings.load, hbase, bind, Except.bind]
  cases base.validate <;> rfl

/-- A run gets to the endpoint of the settings that it is to run with, or it fails with the reason why
there are none. -/
theorem report_of_settings : match settings o content with
    | .ok s => (report o content).endpoint = some s.server.endpoint
    | .error e => (report o content).endpoint = none ∧ (report o content).failure = some e := by
  cases hfound : found content with
  | error e => simp [settings, report, Report.fail, hfound, bind, Except.bind]
  | ok v =>
    cases hsettled : settled o v.2 with
    | error e => simp [settings, report, Report.fail, hfound, hsettled, bind, Except.bind]
    | ok s =>
      simp only [settings, report, hfound, hsettled, bind, Except.bind]
      split
      · rfl
      · split <;> rfl

/-- A file that is read as settings gives the settings to run with exactly if they make sense as they
stand there and also with the given options in place; these are then the settings. The file is refused
for what it says itself, whatever the options are; after that only a blank host or port zero is. -/
theorem settings_of_file (o : Options) (htext : String.fromUTF8? bytes = some text)
    (hbase : Settings.ofDocument text = .ok base) :
    ((∃ s, settings o (.file bytes) = .ok s) ↔
        base.validate = .ok () ∧ (o.override base).validate = .ok ()) ∧
      (∀ s, settings o (.file bytes) = .ok s → s = o.override base) ∧
      (∀ f, base.validate = .error f → settings o (.file bytes) = .error (.load (.invalid f))) ∧
      (base.validate = .ok () →
        ((o.override base).validate = .ok () ↔ o.Sound) ∧
        ∀ f, (o.override base).validate = .error f → settings o (.file bytes) = .error (.fault f)) := by
  have hfound := found_of_document htext hbase
  cases hfile : base.validate with
  | error f =>
    have hsettings : settings o (.file bytes) = .error (.load (.invalid f)) := by
      rw [settings, hfound, hfile]
      rfl
    simp [hsettings]
  | ok u =>
    have hsettings : settings o (.file bytes) = settled o base := by
      rw [settings, hfound, hfile]
      rfl
    have hoptions := Options.validate_override (o := o) hfile
    rw [hsettings, settled]
    cases heffective : (o.override base).validate with
    | error f => simp [← hoptions, heffective]
    | ok u => simp [← hoptions, heffective]

/-- A file with a port, an output and a colour of its own. -/
def portFile : String :=
  "[server]\nport = 7000\n[output]\nwidth = 640\n[display]\nbackground = '#102030'\n"

def portSettings : Settings where
  server := { port := 7000 }
  output := { width := 640 }
  display := { background := "#102030" }

theorem settings_of_port_file :
    String.fromUTF8? portFile.toUTF8 = some portFile ∧ Settings.ofDocument portFile = .ok portSettings ∧
      settings { host := some "::1", password := some "x", compression := some .off }
          (.file portFile.toUTF8) =
        .ok { portSettings with server := {
          address := "::1", port := 7000, password := some "x", compression := .off } } := by
  have htext := Settings.fromUTF8?_toUTF8 portFile
  have hbase : Settings.ofDocument portFile = .ok portSettings := by decide +kernel
  have hvalid : portSettings.validate = .ok () := by decide
  obtain ⟨hiff, hsettings, -⟩ := settings_of_file
    { host := some "::1", password := some "x", compression := some .off } htext hbase
  obtain ⟨s, hs⟩ := hiff.mpr ⟨hvalid, by decide⟩
  exact ⟨htext, hbase, hs.trans (congrArg Except.ok (hsettings s hs))⟩

/-- A file that limits the time of a password and has none. -/
def ticketFile : String := "[server]\nticket_lifetime_secs = 9\n"

/-- A password among the options makes the file's settings make sense, and yet there are no settings
to run with: the file is refused as it stands. -/
theorem ticket_file_refused :
    let o : Options := { password := some "x" }
    let base : Settings := { server := { ticketLifetime := some 9 } }
    Settings.ofDocument ticketFile = .ok base ∧ (o.override base).validate = .ok () ∧
      settings o (.file ticketFile.toUTF8) = .error (.load (.invalid .ticketWithoutPassword)) := by
  intro o base
  have hbase : Settings.ofDocument ticketFile = .ok base := by decide +kernel
  have hrefused : base.validate = .error .ticketWithoutPassword := by decide
  refine ⟨hbase, by decide, ?_⟩
  rw [settings, found_of_document (Settings.fromUTF8?_toUTF8 ticketFile) hbase, hrefused]
  rfl

end Launch

end RemoteDisplay
