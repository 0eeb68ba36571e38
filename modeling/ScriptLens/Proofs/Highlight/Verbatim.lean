import ScriptLens.Proofs.Highlight.Gutter
import ScriptLens.Proofs.Settings.Choice
import ScriptLens.Proofs.Text.Utf8

namespace ScriptLens

open CommandLine (Command Options Request)
open Text.Utf8 (Decodes decodeLossy decodeLossy_eq_iff decodeLossy_encode encode)

theorem render_uncolored (source : String) : render ⟨false, none⟩ source = source := by
  rw [← String.toList_inj, ← Canvas.uncolored, toList_render_uncolored, Canvas.front_none,
    Text.numbered_empty, Text.flatten_linesBy]

theorem isBlank_eq_false_iff {s : String} :
    isBlank s = false ↔ ∃ c ∈ s.toList, isWhitespace c = false := by
  rw [isBlank, List.all_eq_false]
  simp only [Bool.not_eq_true]

def visible (s : String) : String := if isBlank s then "" else s

def AccessError.refusal (e : AccessError) (path : String) : Failure :=
  let name := if isStandardInput path then "standard input" else path
  .fileOperation ("cannot read " ++ name ++ ": " ++ e.message)

namespace Host

variable {host : Host} {path : String}

def supply (host : Host) (path : String) : Except AccessError (List UInt8) :=
  if isStandardInput path then host.stdin else host.readFile path

theorem input_eq (host : Host) (path : String) :
    host.input path = ((host.supply path).map
      (Input.mk (if isStandardInput path then stdinName else path))).mapError (·.refusal path) := by
  rw [input, standardInput, supply]
  unfold AccessError.refusal
  cases isStandardInput path with
  | true => cases host.stdin <;> rfl
  | false =>
    rw [if_neg Bool.false_ne_true, if_neg Bool.false_ne_true]
    cases host.readFile path <;> rfl

theorem exists_input {bytes : List UInt8} (supplied : host.supply path = .ok bytes) :
    ∃ name, host.input path = .ok ⟨name, bytes⟩ := by
  rw [input_eq, supplied]
  exact ⟨_, rfl⟩

theorem input_of_error {e : AccessError} (missing : host.supply path = .error e) :
    host.input path = .error (e.refusal path) := by
  rw [input_eq, missing]
  rfl

theorem exists_highlight_uncolored {bytes : List UInt8}
    (supplied : host.supply path = .ok bytes) :
    ∃ events, host.highlight path false false =
      Transcript.following { stdout := visible (decodeLossy bytes) } events := by
  obtain ⟨name, read⟩ := exists_input supplied
  have blank : (Input.mk name bytes).isBlank = isBlank (decodeLossy bytes) := rfl
  rw [highlight, present, read, visible, ← blank]
  dsimp only
  split
  · exact ⟨_, rfl⟩
  · rw [if_neg Bool.false_ne_true, render_uncolored]
    exact ⟨_, rfl⟩

theorem highlight_of_error {e : AccessError} (missing : host.supply path = .error e)
    (color lineNumbers : Bool) :
    host.highlight path color lineNumbers = .failed (e.refusal path) := by
  rw [highlight, present, input_of_error missing]

end Host

/-- The bytes come out, with the encoding of U+FFFD for every ill formed part. -/
structure Copies (bytes : List UInt8) (t : Transcript) (o : Outcome) : Prop where
  failure : t.failure = none
  status : o.status = 0
  errors : o.errorLines = []
  decodes : Decodes bytes (decodeLossy bytes).toList
  stdout : encode o.stdout =
    if isBlank (decodeLossy bytes) then [] else encode (decodeLossy bytes)
  wellFormed : ∀ text, encode text = bytes → (∃ c ∈ text.toList, isWhitespace c = false) →
    encode o.stdout = bytes

theorem copies_visible (bytes : List UInt8) (events : List Event) (filter : LogFilter) :
    Copies bytes (Transcript.following { stdout := visible (decodeLossy bytes) } events)
      ((Transcript.following { stdout := visible (decodeLossy bytes) } events).outcome
        filter) where
  failure := rfl
  status := rfl
  errors := by
    rw [Transcript.errorLines_outcome, Transcript.errorLines_following]
    rfl
  decodes := decodeLossy_eq_iff.mp rfl
  stdout := apply_ite encode ..
  wellFormed := by
    rintro text rfl solid
    change encode (visible _) = _
    rw [decodeLossy_encode, visible, isBlank_eq_false_iff.mpr solid]
    rfl

theorem highlight_verbatim {host : Host} {words : List String} {options : Options}
    {settings : Settings} {path : String} {lineNumbers : Bool}
    (request : Request.read host.environment words =
      some (.invocation options (.highlight path lineNumbers)))
    (given : host.settings options = .ok settings) (valid : settings.validate = .ok ())
    (colorless : (!options.noColor && settings.highlight.color) = false)
    (unnumbered : (lineNumbers || settings.highlight.lineNumbers) = false) :
    let t := (Command.highlight path lineNumbers).run host options
    match host.supply path with
    | .ok bytes => Copies bytes t (run host words)
    | .error e => Refuses (e.refusal path) t (run host words) := by
  rw [run_of_request request, Command.run_of_valid given valid, Command.execute, colorless,
    unnumbered, Transcript.following_following]
  cases supplied : host.supply path with
  | ok bytes =>
    obtain ⟨events, drawn⟩ := Host.exists_highlight_uncolored supplied
    dsimp only
    rw [drawn, Transcript.following_following]
    exact copies_visible ..
  | error e =>
    dsimp only
    rw [Host.highlight_of_error supplied]
    exact refuses_failed ..

theorem highlight_verbatim_lossy :
    let host : Host :=
      { lookup := fun _ => .error .notFound, stdin := .ok [0x61, 0xFF, 0x62] }
    let words := ["highlight", "--no-color", "-"]
    let options : Options := ⟨false, true, none⟩
    Request.read host.environment words = some (.invocation options (.highlight "-" false)) ∧
      host.settings options = .ok {} ∧ ({} : Settings).validate = .ok () ∧
      (!options.noColor && ({} : Settings).highlight.color) = false ∧
      (false || ({} : Settings).highlight.lineNumbers) = false ∧
      Copies [0x61, 0xFF, 0x62] ((Command.highlight "-" false).run host options)
        (run host words) ∧
      encode (run host words).stdout = [0x61, 0xEF, 0xBF, 0xBD, 0x62] := by
  intro host words options
  have request : Request.read host.environment words =
      some (.invocation options (.highlight "-" false)) := by decide +kernel
  have given : host.settings options = .ok {} := rfl
  have valid : ({} : Settings).validate = .ok () := rfl
  have copies : Copies [0x61, 0xFF, 0x62] ((Command.highlight "-" false).run host options)
      (run host words) := highlight_verbatim request given valid rfl rfl
  refine ⟨request, given, valid, rfl, rfl, copies, copies.stdout.trans ?_⟩
  decide +kernel

end ScriptLens
