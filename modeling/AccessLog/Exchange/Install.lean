/-
Putting a layer together from its options.

* `LayerOptions`: what a layer is given.
* `Installed`: what comes of it: renderer, transport options and sink.
* `install`: the renderer is resolved once and the transport options are
  checked.
* `Installed.layer`: the layer, over the tokens as they are when it is used.
* `LayerPlan`, `Assembly.add`, `Assembly.layers`: several layers around one
  another, each with tokens and formats of its own or with the shared ones.
* `skipPaths`: leaves out the records of some paths.
-/
import AccessLog.Exchange.Loop
import AccessLog.Format.Registry

namespace AccessLog

/-- Whether to leave a record out. -/
abbrev SkipPolicy := View → Except Failure Value

/-- Where the events of a layer are to go. -/
inductive SinkChoice where
  /-- To an emitter made from the transport options. -/
  | fromOptions
  /-- To a sink that is there already, shown by a name. -/
  | given (sink : Sink) (name : Text)

/-- What a layer is given. -/
structure LayerOptions where
  format : FormatOption CustomRenderer := .value (.text Formats.defaultName)
  immediate : Value := .flag false
  /-- What is left out; a policy that does not count as true is as good as none. -/
  skip : Option SkipPolicy := none
  sink : SinkChoice := .fromOptions
  /-- The transport options, checked when the layer is put together. -/
  transport : Except Failure TransportOptions := .ok {}

/-- What comes of the options. -/
structure Installed where
  renderer : Renderer
  immediate : Value
  skip : Option SkipPolicy
  options : TransportOptions
  sink : Sink
  sinkName : Text

/-- The name of the emitter that is made from the transport options. -/
def emitterName : Text := "LWESEmitter"

/-- A layer from its options, with the notices told until it stood or failed,
and the formats afterwards. -/
def install (formats : Formats CustomRenderer) (o : LayerOptions) :
    Except Failure Installed × List Notice × Formats CustomRenderer :=
  match formats.resolve o.format with
  | .error e => (.error e, [], formats)
  | .ok (resolved, after) =>
    let notices := resolved.notices formats
    match o.transport with
    | .error e => (.error e, notices, after)
    | .ok options =>
      let renderer := resolved.toRenderer
      let (sink, name) : Sink × Text := match o.sink with
        | .fromOptions => (.datagrams { options }, emitterName)
        | .given sink name => (sink, name)
      (.ok ⟨renderer, o.immediate, o.skip, options, sink, name⟩,
        notices ++ [.installed renderer.shown o.immediate name], after)

/-- Nothing is left out. -/
def neverSkip : SkipPolicy := fun _ => .ok (.flag false)

/-- The layer, over some tokens. -/
def Installed.layer (i : Installed) (tokens : Tokens) : Layer where
  immediate := i.immediate.truthy
  skip := i.skip.getD neverSkip
  render := i.renderer.render tokens
  eventType := i.options.type

/-- Leaves out the records of some paths; the path is that of the scope as it
is then. -/
def skipPaths (paths : List Value) : SkipPolicy := fun v =>
  let path := v.scope.value "path"
  if path.hashable then .ok (.flag (paths.any (·.same path))) else .error .wrongType

/-! ### Several layers -/

/-- What one of several layers is given. -/
structure LayerPlan where
  options : LayerOptions
  /-- Tokens for all layers, registered before this one is put together. -/
  sharedTokens : List (Text × Extractor) := []
  /-- Formats for all layers, defined before this one is put together. -/
  sharedFormats : List (Text × FormatOption CustomRenderer) := []
  /-- The tokens of this layer only. -/
  ownTokens : Option (List (Text × Extractor)) := none
  /-- The formats of this layer only. -/
  ownFormats : Option (List (Text × FormatOption CustomRenderer)) := none

/-- Tokens registered one after the other, with the notices of those that took
the place of another. -/
def Tokens.registerAll (tokens : Tokens) (entries : List (Text × Extractor)) :
    Tokens × List Notice :=
  entries.foldl (fun (tokens, notices) (name, f) =>
    (tokens.register name f,
      if tokens.has name then notices ++ [.overridingToken name] else notices)) (tokens, [])

/-- Formats defined one after the other. -/
def Formats.defineAll (formats : Formats CustomRenderer)
    (entries : List (Text × FormatOption CustomRenderer)) :
    Except Failure (Formats CustomRenderer) :=
  entries.foldlM (fun formats (name, option) => formats.define name option) formats

/-- The layers put together so far, the outermost first. -/
structure Assembly where
  tokens : Tokens
  formats : Formats CustomRenderer := Formats.builtIn
  notices : List Notice := []
  installed : List (Installed × Option Tokens) := []

namespace Assembly

/-- One more layer, around those before. -/
def add (a : Assembly) (p : LayerPlan) : Except Failure Assembly := do
  let (tokens, notices) := a.tokens.registerAll p.sharedTokens
  let shared ← a.formats.defineAll p.sharedFormats
  let own := p.ownTokens.map (Tokens.registerAll [])
  let registry ← match p.ownFormats with
    | some entries => Formats.defineAll {} entries
    | none => pure shared
  let (result, more, registry) := install registry p.options
  let installed ← result
  return { tokens
           formats := if p.ownFormats.isSome then shared else registry
           notices := a.notices ++ notices ++ (own.map (·.2)).getD [] ++ more
           installed := (installed, own.map (·.1)) :: a.installed }

/-- The layers, over the tokens as they are in the end. -/
def layers (a : Assembly) : List Layer :=
  a.installed.map fun (i, own) => i.layer (own.getD a.tokens)

end Assembly

end AccessLog
