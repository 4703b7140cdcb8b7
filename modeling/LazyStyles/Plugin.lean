import LazyStyles.Filter
import LazyStyles.Options.Config
import LazyStyles.LazyModule
import LazyStyles.Event

/-!
# The plugin

What is done with a module, for a host that hands over its text (`Plugin.transform`, `Plugin.apply`) and for
one that hands over its tree (`rewrite`).  Both decide alike (`lazySource`), and both leave alone whatever is
not a generated module.
-/

namespace LazyStyles

open Syntax

/-! ### Errors -/

/-- Why a host's request fails. -/
inductive Error where
  | config (e : Options.Error)
  | pattern (e : Filter.Error)
  | parse (e : ParseError)

/-- The wording of an error. -/
def Error.message : Error → String
  | config e => "invalid plugin config: " ++ e.message
  | pattern e => e.message
  | parse e => e.message

/-! ### The decision -/

/-- Why no lazy module takes the place of a module. -/
inductive Refusal where
  /-- The module is left alone, and the event is logged. -/
  | kept (e : Event)
  /-- The source map has panicked, and all ends there. -/
  | panicked
deriving DecidableEq, Repr

/-- The text of the lazy module that takes the place of `m`, or why there is none.  The source map is that of
`m`, as far as it is known. -/
def lazySource (m : HostModule) (known : Option SourceMap) : Except Refusal String :=
  match Shape.ofModule m with
  | .error mismatch => .error (.kept (.notGenerated mismatch))
  | .ok shape =>
    match Fragments.ofShape shape known with
    | .error .missing => .error (.kept .withoutText)
    | .error .panic => .error .panicked
    | .ok f => .ok f.render

/-! ### Hosts with texts -/

/-- The plugin as a host with texts has set it up. -/
structure Plugin where
  filter : Filter

namespace Plugin

/-- The name under which hosts know the plugin. -/
def name : String := "postcss-treeshakeable"

/-- The plugin with the given options. -/
def ofOptions (o : Options) : Except Error Plugin :=
  match Filter.ofOptions o with
  | .ok f => .ok ⟨f⟩
  | .error e => .error (.pattern e)

/-- What has become of a module: the text that takes its place, if any does, and what is logged. -/
structure Answer where
  replacement : Option String
  events : List Event

/-- Why a call has no answer. -/
inductive Failure where
  /-- The text is refused by the parser. -/
  | refused (e : ParseError)
  /-- The source map has panicked. -/
  | panicked

/-- Decides about the module with the given text. -/
def transform (p : Plugin) (code id : String) : Except Failure Answer :=
  if p.filter.accepts id then
    match parseModule code id with
    | .error e => .error (.refused e)
    | .ok m =>
      match lazySource m (some (.ofText (sourceOf code))) with
      | .ok text => .ok ⟨some text, [.deferred]⟩
      | .error (.kept e) => .ok ⟨none, [e]⟩
      | .error .panicked => .error .panicked
  else .ok ⟨none, [.skipped]⟩

/-- The text that the module has afterwards. -/
def apply (p : Plugin) (code id : String) : Except Failure String :=
  (p.transform code id).map fun a => a.replacement.getD code

end Plugin

/-! ### Hosts with trees -/

/-- What has become of a program, and what is logged. -/
inductive Rewriting where
  | kept (events : List Event)
  | replaced (m : HostModule) (events : List Event)
  /-- The source map has panicked, and nothing has been logged before. -/
  | panicked

namespace Rewriting

/-- The program that the host has afterwards instead of `p`; after a panic it has none. -/
def program (p : Program) : Rewriting → Option Program
  | kept _ => some p
  | replaced m _ => some (.module m)
  | panicked => none

def events : Rewriting → List Event
  | kept es | replaced _ es => es
  | panicked => []

end Rewriting

/-- The module as it is parsed, without the spans, which mean nothing to the host, but for that of the module
itself. -/
def placed (m : HostModule) (span : Option ByteSpan) : HostModule :=
  { m.withoutSpans with span := span }

/-- Decides about a program with the given id.  The source map is that of its spans, as far as it is known. -/
def rewrite (f : Filter) (p : Program) (id : String) (known : Option SourceMap) : Rewriting :=
  if f.accepts id then
    match p with
    | .script _ => .kept [.isScript]
    | .module m =>
      match lazySource m known with
      | .error (.kept e) => .kept [e]
      | .error .panicked => .panicked
      | .ok text =>
        match parseModule text id with
        | .ok n => .replaced (placed n m.span) [.deferred]
        | .error e => .kept [.deferred, .unparsed e]
  else .kept [.skipped]

/-- Decides about a program for a host that may have a config text and a file name for it. -/
def rewriteConfigured (config fileName : Option String) (p : Program) (known : Option SourceMap) :
    Except Error Rewriting :=
  match Options.ofConfig (config.getD "") with
  | .error e => .error (.config e)
  | .ok o =>
    match Filter.ofOptions o with
    | .error e => .error (.pattern e)
    | .ok f => .ok (rewrite f p (fileName.getD "") known)

end LazyStyles
