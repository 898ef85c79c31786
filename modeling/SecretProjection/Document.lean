import SecretProjection.Projection.Basic
import SecretProjection.Template.Eval

/-!
# Documents

A document is the content of an output secret before it is written to the cluster.  Each of its
values is the output of a template; name, type, labels and annotations are taken from the spec as
they are.  One template that fails leaves no document.
-/

namespace SecretProjection

open Projection

structure Document where
  name : String
  type : String
  labels : Table String
  annotations : Table String
  data : Table String
  deriving DecidableEq

namespace Document

def fieldFault (key : String) (fault : Template.Fault) : Fault :=
  ⟨.template, "stringData '" ++ key ++ "': " ++ fault.message⟩

/-- The outputs of templates in the order of their keys, up to the first fault. -/
def renderFields (root : Json) : List (String × String) -> Except Fault (List (String × String))
  | [] => .ok []
  | (key, source) :: rest =>
      match Template.render source root with
      | .error fault => .error (fieldFault key fault)
      | .ok text => (renderFields root rest).map ((key, text) :: ·)

/-- The document of an output for the merged payloads. -/
def render (output : OutputSpec) (merged : Table Json) : Except Fault Document :=
  match renderFields (.object merged.entries) output.stringData.entries with
  | .error fault => .error fault
  | .ok fields =>
      .ok ⟨output.name, output.type, output.labels, output.annotations, Table.ofList fields⟩

end Document

end SecretProjection
