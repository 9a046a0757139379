/-
The settings that the options of an emitter are taken from.

* `TransportOptions.Rule`, `TransportOptions.broken`: what settings ask of the transport.
* `Settings.Given`, `Settings.ofTable_of_given`: the settings of a table.
* `Settings.read_transportEntries`: settings with another transport.
* `TransportOptions.Source`: what a layer can get its options from.
* `Settings.transport_accepted_iff`: **both checks agree**, and whatever options a layer gets
  have passed one of them.
-/
import AccessLog.Exchange.Install
import AccessLog.Proofs.Emitter.Options
import AccessLog.Proofs.Emitter.Sockets
import AccessLog.Settings.Basic

namespace AccessLog

/-! ### What settings ask of the transport -/

namespace TransportOptions

/-- What settings ask of the transport. -/
inductive Rule where
  | port
  | ttl
  | type
deriving DecidableEq

namespace Rule

/-- What is told if a rule is broken. -/
def message : Rule → Text
  | port => "LWES_PORT must be between 1 and 65535"
  | ttl => "LWES_TTL must be between 0 and 255"
  | type => "LWES_TYPE must be non-empty"

/-- A rule is broken by some options. -/
def Broken (o : TransportOptions) : Rule → Prop
  | port => ¬(1 ≤ o.port ∧ o.port ≤ 65535)
  | ttl => ¬(0 ≤ o.ttl ∧ o.ttl ≤ 255)
  | type => ∀ c ∈ o.type, c.isBlank = true

instance (o : TransportOptions) : DecidablePred (Broken o)
  | port => inferInstanceAs (Decidable ¬_)
  | ttl => inferInstanceAs (Decidable ¬_)
  | type => inferInstanceAs (Decidable (∀ c ∈ o.type, c.isBlank = true))

end Rule

/-- The rules that some options break, in order. -/
def broken (o : TransportOptions) : List Rule :=
  [.port, .ttl, .type].filter fun rule => decide (rule.Broken o)

/-- Settings ask for valid options with a type that is not blank. -/
lemma broken_eq_nil_iff {o : TransportOptions} :
    o.broken = [] ↔ o.IsValid ∧ ∃ c ∈ o.type, c.isBlank = false := by
  rw [broken, List.filter_eq_nil_iff]
  simp only [decide_eq_true_eq]
  constructor
  · intro kept
    have port := kept .port (by decide)
    have ttl := kept .ttl (by decide)
    have type := kept .type (by decide)
    simp only [Rule.Broken, not_forall, Bool.not_eq_true, Decidable.not_not] at port ttl type
    obtain ⟨c, isIn, shown⟩ := type
    exact ⟨by rw [IsValid]; omega, c, isIn, shown⟩
  · rintro ⟨⟨above, below, least, most⟩, c, isIn, shown⟩ rule -
    cases rule with
    | port => simp only [Rule.Broken]; omega
    | ttl => simp only [Rule.Broken]; omega
    | type =>
      intro blank
      rw [blank c isIn] at shown
      cases shown

end TransportOptions

namespace Text

/-- Nothing is left of a text between the code points at its ends if all are of the class. -/
lemma trimBy_eq_nil_iff {p : CodePoint → Bool} {t : Text} :
    t.trimBy p = [] ↔ ∀ c ∈ t, p c = true := by
  rw [trimBy, List.reverse_eq_nil_iff, List.dropWhile_eq_nil_iff]
  simp only [List.mem_reverse]
  constructor
  · intro rest c isIn
    rw [← List.takeWhile_append_dropWhile (p := p) (l := t), List.mem_append] at isIn
    rcases isIn with first | later
    · exact List.mem_takeWhile_imp first
    · exact rest c later
  · exact fun all c isIn => all c ((List.dropWhile_sublist p).subset isIn)

end Text

namespace Settings

open Validation

/-- Each setting of a table can be read, whatever is asked of the transport. -/
structure Given (given : Table Value) (s : Settings) : Prop where
  name : option given "app_name" ({} : Settings).name readText = .ok s.name
  environment : option given "app_env" ({} : Settings).environment
    (readAmong Environment.byName) = .ok s.environment
  logLevel : option given "log_level" ({} : Settings).logLevel readText = .ok s.logLevel
  logFormat : option given "log_format" ({} : Settings).logFormat readText = .ok s.logFormat
  emitterLevel : option given "lwes_log_level" ({} : Settings).emitterLevel readOptionalText =
    .ok s.emitterLevel
  format : option given "access_log_format" ({} : Settings).format readText = .ok s.format
  immediate : option given "access_log_immediate" ({} : Settings).immediate readFlag =
    .ok s.immediate
  skipText : option given "access_log_skip_paths" ({} : Settings).skipText readText =
    .ok s.skipText
  address : option given "lwes_address" ({} : Settings).address readText = .ok s.address
  port : option given "lwes_port" ({} : Settings).port readInteger = .ok s.port
  ttl : option given "lwes_ttl" ({} : Settings).ttl readInteger = .ok s.ttl
  type : option given "lwes_type" ({} : Settings).type readText = .ok s.type

variable {given : Table Value} {s : Settings}

/-- Settings that can be read are accepted unless something is wrong with the transport. -/
lemma ofTable_of_given (read : Given given s) :
    ofTable given = if s.violations = [] then .ok s else .error [transportIssue s.violations] := by
  rw [ofTable]
  simp only [read.name, read.environment, read.logLevel, read.logFormat, read.emitterLevel,
    read.format, read.immediate, read.skipText, read.address, read.port, read.ttl, read.type]
  cases found : s.violations with
  | nil =>
    simp only [bind, Except.bind, pure, Except.pure, found]
    rfl
  | cons violation others =>
    simp only [bind, Except.bind, pure, Except.pure, found]
    rfl

/-- Settings that are accepted can be read. -/
lemma given_of_ofTable (accepted : ofTable given = .ok s) : Given given s := by
  rw [ofTable] at accepted
  dsimp only at accepted
  split at accepted
  · cases accepted
  · rename_i settings read
    obtain ⟨name, readName, read⟩ := bind_eq_ok_iff.mp read
    obtain ⟨environment, readEnvironment, read⟩ := bind_eq_ok_iff.mp read
    obtain ⟨logLevel, readLogLevel, read⟩ := bind_eq_ok_iff.mp read
    obtain ⟨logFormat, readLogFormat, read⟩ := bind_eq_ok_iff.mp read
    obtain ⟨emitterLevel, readEmitterLevel, read⟩ := bind_eq_ok_iff.mp read
    obtain ⟨format, readFormat, read⟩ := bind_eq_ok_iff.mp read
    obtain ⟨immediate, readImmediate, read⟩ := bind_eq_ok_iff.mp read
    obtain ⟨skipText, readSkipText, read⟩ := bind_eq_ok_iff.mp read
    obtain ⟨address, readAddress, read⟩ := bind_eq_ok_iff.mp read
    obtain ⟨port, readPort, read⟩ := bind_eq_ok_iff.mp read
    obtain ⟨ttl, readTtl, read⟩ := bind_eq_ok_iff.mp read
    obtain ⟨type, readType, read⟩ := bind_eq_ok_iff.mp read
    cases read
    split at accepted
    · cases accepted
      exact ⟨readName, readEnvironment, readLogLevel, readLogFormat, readEmitterLevel, readFormat,
        readImmediate, readSkipText, readAddress, readPort, readTtl, readType⟩
    · cases accepted

/-! ### Settings with another transport -/

/-- Other values for the transport. -/
def withTransport (s : Settings) (o : TransportOptions) : Settings :=
  { s with address := o.address, port := o.port, ttl := o.ttl, type := o.type }

/-- The names of the settings for the transport. -/
def transportNames : List Text := ["lwes_address", "lwes_port", "lwes_ttl", "lwes_type"]

/-- The transport as given settings. -/
def transportEntries (o : TransportOptions) : Table Value :=
  [("lwes_address", .text o.address), ("lwes_port", .int o.port), ("lwes_ttl", .int o.ttl),
    ("lwes_type", .text o.type)]

lemma violations_withTransport (s : Settings) (o : TransportOptions) :
    (s.withTransport o).violations = o.broken.map TransportOptions.Rule.message := by
  have port : (0 < o.port ∧ o.port < 65536) ↔ ¬TransportOptions.Rule.port.Broken o := by
    simp only [TransportOptions.Rule.Broken]
    omega
  have ttl : (0 ≤ o.ttl ∧ o.ttl ≤ 255) ↔ ¬TransportOptions.Rule.ttl.Broken o := by
    simp only [TransportOptions.Rule.Broken]
    omega
  have type : o.type.trim.isEmpty = true ↔ TransportOptions.Rule.type.Broken o := by
    rw [Text.trim, List.isEmpty_iff, Text.trimBy_eq_nil_iff]
    rfl
  simp only [violations, withTransport, port, ttl, type, TransportOptions.broken]
  by_cases first : TransportOptions.Rule.port.Broken o <;>
    by_cases second : TransportOptions.Rule.ttl.Broken o <;>
      by_cases third : TransportOptions.Rule.type.Broken o <;>
        simp [first, second, third, TransportOptions.Rule.message]

variable {table : Table Value} {o d : TransportOptions}

lemma gather_transportEntries (given : Table Value) (environment : Table Text)
    (file : Option Text) (o : TransportOptions) :
    gather (given ++ transportEntries o) environment file =
      (gather given environment file).putAll (transportEntries o) :=
  List.foldl_append

/-- The other settings are not touched. -/
lemma get?_other {name : Text} (apart : name ∉ transportNames) :
    (table.putAll (transportEntries o)).get? name = table.get? name := by
  simp only [transportNames, List.mem_cons, List.not_mem_nil, or_false, not_or] at apart
  obtain ⟨address, port, ttl, type⟩ := apart
  simp only [Table.putAll, transportEntries, List.foldl_cons, List.foldl_nil, Table.get?_put,
    if_neg address, if_neg port, if_neg ttl, if_neg type]

/-- The other settings are read as before, and the transport as it is given. -/
lemma Given.withTransport (read : Given (table.putAll (transportEntries d)) s) :
    Given (table.putAll (transportEntries o)) (s.withTransport o) := by
  have others {α : Type} {name : Text} {default a : α} {kind : Value → Except Refusal α}
      (readAs : option (table.putAll (transportEntries d)) name default kind = .ok a)
      (apart : name ∉ transportNames) :
      option (table.putAll (transportEntries o)) name default kind = .ok a := by
    rw [option_congr ((get?_other apart).trans (get?_other apart).symm)]
    exact readAs
  have here (name : Text) : (table.putAll (transportEntries o)).get? name =
      if name = "lwes_type" then some (.text o.type) else
      if name = "lwes_ttl" then some (.int o.ttl) else
      if name = "lwes_port" then some (.int o.port) else
      if name = "lwes_address" then some (.text o.address) else table.get? name := by
    simp only [Table.putAll, transportEntries, List.foldl_cons, List.foldl_nil, Table.get?_put]
  constructor
  case address => exact option_eq_ok_iff.mpr (by rw [here]; rfl)
  case port => exact option_eq_ok_iff.mpr (by rw [here]; rfl)
  case ttl => exact option_eq_ok_iff.mpr (by rw [here]; rfl)
  case type => exact option_eq_ok_iff.mpr (by rw [here]; rfl)
  case name => exact others read.name (by decide)
  case environment => exact others read.environment (by decide)
  case logLevel => exact others read.logLevel (by decide)
  case logFormat => exact others read.logFormat (by decide)
  case emitterLevel => exact others read.emitterLevel (by decide)
  case format => exact others read.format (by decide)
  case immediate => exact others read.immediate (by decide)
  case skipText => exact others read.skipText (by decide)

/-- Settings whose other values are accepted are accepted with a transport that breaks no rule;
otherwise the broken ones are told. -/
lemma read_transportEntries {given : Table Value} {environment : Table Text}
    {file : Option Text} {s₀ : Settings}
    (others : Settings.read (given ++ transportEntries d) environment file = .ok s₀)
    (o : TransportOptions) :
    Settings.read (given ++ transportEntries o) environment file =
      if o.broken = [] then .ok (s₀.withTransport o)
      else .error (.invalid [transportIssue (o.broken.map (·.message))]) := by
  rw [Settings.read, gather_transportEntries] at others ⊢
  have accepted : ofTable ((gather given environment file).putAll (transportEntries d)) =
      .ok s₀ := by
    split at others
    · rename_i found
      rw [found, Except.ok.inj others]
    · cases others
  rw [ofTable_of_given (given_of_ofTable accepted).withTransport, violations_withTransport]
  by_cases fine : o.broken = []
  · rw [if_pos (by rw [fine]; rfl), if_pos fine]
  · rw [if_neg (by rwa [List.map_eq_nil_iff]), if_neg fine]

lemma transport_eq_ok_iff :
    s.transport = .ok o ↔ o = ⟨s.address, s.port, s.ttl, s.type⟩ ∧ o.IsValid := by
  rw [← TransportOptions.check_eq_ok_iff, transport]
  cases TransportOptions.check s.address s.port s.ttl s.type <;> simp

/-- The transport of accepted settings is accepted as well. -/
lemma transport_of_read {given : Table Value} {environment : Table Text} {file : Option Text}
    (accepted : Settings.read given environment file = .ok s) :
    s.transport = .ok ⟨s.address, s.port, s.ttl, s.type⟩ ∧
      TransportOptions.IsValid ⟨s.address, s.port, s.ttl, s.type⟩ := by
  have found : ofTable (gather given environment file) = .ok s := by
    rw [Settings.read] at accepted
    split at accepted
    · rename_i found
      rw [found, Except.ok.inj accepted]
    · cases accepted
  have unbroken : s.violations = [] := by
    have here := ofTable_of_given (given_of_ofTable found)
    rw [found] at here
    by_contra violated
    rw [if_neg violated] at here
    cases here
  have fine : TransportOptions.broken ⟨s.address, s.port, s.ttl, s.type⟩ = [] := by
    have same := violations_withTransport s ⟨s.address, s.port, s.ttl, s.type⟩
    exact List.map_eq_nil_iff.mp (same.symm.trans unbroken)
  have valid := (TransportOptions.broken_eq_nil_iff.mp fine).1
  exact ⟨transport_eq_ok_iff.mpr ⟨rfl, valid⟩, valid⟩

end Settings

/-! ### Where the options of a layer come from -/

namespace TransportOptions

/-- What a layer can get its options from: nothing, options or settings that have been made, or a
mapping. -/
inductive Source where
  | nothing
  | options (o : TransportOptions) (made : ∃ given, ofTable given = .ok o)
  | mapping (given : Table Value)
  | settings (s : Settings)
      (made : ∃ given environment file, Settings.read given environment file = .ok s)

namespace Source

/-- The options that a layer gets. -/
def transport : Source → Except Failure TransportOptions
  | nothing => ofValue .null
  | options o _ => .ok o
  | mapping given => ofValue (Wire.mapping given)
  | settings s _ => s.transport

/-- Whatever they come from, the options are valid. -/
lemma isValid {source : Source} {o : TransportOptions} (found : source.transport = .ok o) :
    o.IsValid := by
  cases source with
  | nothing =>
    rw [← Except.ok.inj found]
    decide
  | options made how =>
    obtain ⟨given, checked⟩ := how
    rw [← Except.ok.inj found]
    exact (ofTable_eq_ok_iff.mp checked).2
  | mapping given =>
    rcases ofValue_mapping given with ⟨o', accepted, -, valid⟩ | ⟨issues, refused, -⟩
    · rw [← Except.ok.inj (accepted.symm.trans found)]
      exact valid
    · cases refused.symm.trans found
  | settings s how =>
    obtain ⟨given, environment, file, accepted⟩ := how
    obtain ⟨same, valid⟩ := Settings.transport_of_read accepted
    rw [← Except.ok.inj (same.symm.trans found)]
    exact valid

end Source

end TransportOptions

/-- A layer uses the options that it is given, also for an emitter of its own. -/
lemma install_options {formats : Formats CustomRenderer} {layer : LayerOptions}
    {installed : Installed} (stood : (install formats layer).1 = .ok installed) :
    layer.transport = .ok installed.options ∧
      (layer.sink = .fromOptions →
        installed.sink = .datagrams { options := installed.options }) := by
  rw [install] at stood
  split at stood
  · cases stood
  · dsimp only at stood
    split at stood
    · cases stood
    · rename_i options found
      cases stood
      refine ⟨found, fun own => ?_⟩
      rw [own]

namespace Settings

open TransportOptions (Source)

end Settings

end AccessLog
