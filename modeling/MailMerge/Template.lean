/-
# Templates

A template is a tree with the settings and filters it is rendered with and the
keyring of its outlines. Drawing up an outline leaves the template with the keys
that were handed out, so outlines drawn up later use the same keys for the same
outputs and branches.
-/

import MailMerge.Outline.Draft
import MailMerge.Outline.Filling
import MailMerge.Settings.Basic
import MailMerge.Tree.Assembly

namespace MailMerge

open Render (Env Scope FilterSet Selector)
open Outline (Keyring Recipients Table)
open MailMerge.Tree (Document Vocabulary)

/-- **A template.** -/
structure Template where
  document : Document
  settings : Settings
  filters : FilterSet
  ring : Keyring

namespace Template

/-- The template of a source, with the standard filters. -/
def ofSource (vocabulary : Vocabulary) (settings : Settings) (source : String) :
    Except Source.Fault Template :=
  (Document.ofSource vocabulary source).map fun document =>
    ⟨document, settings, Render.standardFilters, .ofFormat settings.format⟩

/-- The template with other filters. -/
def withFilters (template : Template) (filters : FilterSet) : Template :=
  { template with filters := filters }

/-- The template with another selection of personal names. -/
def withSelector (template : Template) (selector : Option Selector) : Template :=
  { template with settings := { template.settings with selector := selector } }

/-- **The environment** in which a template meets data. -/
def env (template : Template) (data : Scope) : Env :=
  { (Env.ofFilters template.filters).enter data with
    strict := template.settings.strict
    selector := template.settings.selector }

/-- Rendering in an environment. -/
def renderIn (template : Template) (env : Env) : Render.Outcome :=
  Render.renderAll env template.document.nodes

/-- **Rendering** with data. -/
def render (template : Template) (data : Scope) : Except Render.Fault String :=
  (template.renderIn (template.env data)).1

/-- Rendering with data, handing back the first fault whatever the settings say. -/
def renderStrict (template : Template) (data : Scope) : Except Render.Fault String :=
  (template.renderIn { template.env data with strict := true }).1

/-- **The outline of a template** over shared data, and the template with the
keys handed out. -/
def outline (template : Template) (shared : Scope) : Except Outline.Fault Outline × Template :=
  let (result, _, ring) :=
    Outline.ofDocument template.document (template.env shared) template.ring
  (result, { template with ring := ring })

/-- The table of an outline over shared data. -/
def table (template : Template) (outline : Outline) (shared : Scope) (recipients : Recipients) :
    Except Outline.Fault Table :=
  outline.table (template.env shared) recipients

/-- **Merging:** the texts of a batch of recipients over shared data, and the
template with the keys handed out. -/
def merge (template : Template) (shared : Scope) (recipients : Recipients) :
    Except Outline.Fault (List String) × Template :=
  match template.outline shared with
  | (.error fault, after) => (.error fault, after)
  | (.ok outline, after) => (outline.batch (after.env shared) recipients, after)

end Template

/-- **Why a source could not be rendered.** -/
inductive Failure where
  | source (fault : Source.Fault)
  | render (fault : Render.Fault)
  | merge (fault : Outline.Fault)

/-- What is wrong, and in which stage. -/
def Failure.message : Failure → String
  | .source fault => "parse error: " ++ fault.describe
  | .render fault => "render error: " ++ fault.message
  | .merge fault => "skeleton error: " ++ fault.message

/-- **Rendering a source** with the standard tags. -/
def renderSource (settings : Settings) (source : String) (data : Scope) : Except Failure String :=
  match Template.ofSource .standard settings source with
  | .error fault => .error (.source fault)
  | .ok template => (template.render data).mapError .render

/-- **Merging a source** with the standard tags. -/
def mergeSource (settings : Settings) (source : String) (shared : Scope) (recipients : Recipients) :
    Except Failure (List String) :=
  match Template.ofSource .standard settings source with
  | .error fault => .error (.source fault)
  | .ok template => (template.merge shared recipients).1.mapError .merge

end MailMerge
