/-
**Configuration documents.**

A network configuration is a document in JSON or YAML. A document without a value is refused:
nothing is never taken for an empty configuration.

* `NetworkConfig.ofDocument`: reads a document;
* `NetworkConfig.ofDocument_blank`: blanks are a missing configuration in either form;
* `NetworkConfig.load`: reads the document of a file, whose name tells the form.
-/

import HostNet.Apply.Stage
import HostNet.Config.Json
import HostNet.Host.FileAccess
import HostNet.Text.Blank
import HostNet.Yaml.Format

namespace HostNet

open HostNet.Text

/-- How a document is written. -/
inductive DocumentForm where
  | json
  | yaml
  deriving Repr, DecidableEq, Inhabited

/-- The form of the document in a file: the extension of its name is `json` in any letter case, or
it is YAML. -/
def DocumentForm.ofPath (path : String) : DocumentForm :=
  match extension? path with
  | some extension =>
    if extension.toList.map Char.toLower = "json".toList then .json else .yaml
  | none => .yaml

/-- Why a configuration could not be loaded. -/
inductive LoadFailure where
  /-- The document holds no value. -/
  | missing
  | misfit (failure : DecodeFailure)
  | unreadable (path : String) (cause : Refusal)
  /-- The document of a file is no configuration. -/
  | misfitFile (path : String) (failure : DecodeFailure)
  deriving Repr, DecidableEq, Inhabited

/-- A failure to load as a failure of an apply. -/
def LoadFailure.toApplyFailure : LoadFailure → ApplyFailure
  | .missing => .invalid .missing
  | .misfit failure => .unloadable failure.message
  | .unreadable path cause =>
    .unloadable ("Failed to read network config " ++ path ++ ": " ++ cause.message)
  | .misfitFile path failure => .unloadable (path ++ ": " ++ failure.message)

/-- Whether a document is blank or a lone null. -/
def isMissingDocument (document : String) : Bool :=
  let words := trim document
  words.isEmpty || words = "null" || words = "~"

/-- Reads a record of a configuration from a document in one of the forms. -/
def DocumentForm.decode (form : DocumentForm) (document : String) : Decoded NetworkConfig :=
  match form with
  | .json => NetworkConfig.decodeJson document
  | .yaml => Yaml.decode NetworkConfig.fields document

namespace NetworkConfig

/-- Reads a document. -/
def ofDocument (form : DocumentForm) (document : String) : Except LoadFailure NetworkConfig :=
  if isMissingDocument document then .error .missing else (form.decode document).mapError .misfit

/-- Blanks are a missing configuration in either form. -/
theorem ofDocument_blank (form : DocumentForm) {document : String}
    (blank : trim document = "") : ofDocument form document = .error .missing := by
  simp [ofDocument, isMissingDocument, blank]

/-- Reads the document of a file. -/
def load (tree : FileTree) (path : String) : Except LoadFailure NetworkConfig :=
  match tree.text path with
  | .error cause => .error (.unreadable path cause)
  | .ok document =>
    (ofDocument (.ofPath path) document).mapError fun failure =>
      match failure with
      | .misfit reason => .misfitFile path reason
      | other => other

example : DocumentForm.ofPath "d.json/n.JSON" = .json := by decide +kernel
example : DocumentForm.ofPath "d.json/n" = .yaml := by decide +kernel

end NetworkConfig

end HostNet
