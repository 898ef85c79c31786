import SecretProjection.Settings
import SecretProjection.Text.Quoted

/-!
# Start-up

Before anything else the program reads its settings and looks for the cluster: first the cluster it
runs in, then the one of a configuration file.  A fault is reported with all of its causes.
-/

namespace SecretProjection

namespace Startup

/-! ## Reports -/

/-- Lines of text, each but the first behind an indent. -/
def hanging (indent : String) (text : String) : String :=
  ("\n" ++ indent).intercalate (text.splitOn "\n")

/-- A number in front of a cause, flush right. -/
def ordinal (n : Nat) : String :=
  let digits := Nat.toDigits 10 n
  String.ofList (List.replicate (5 - digits.length) ' ' ++ digits) ++ ": "

/-- The causes of a fault, numbered from a number on. -/
def numbered (n : Nat) : List String -> String
  | [] => ""
  | cause :: rest => ordinal n ++ hanging "       " cause ++ "\n" ++ numbered (n + 1) rest

/-- The report of a fault and its causes; a single cause has no number. -/
def report : List String -> String
  | [] => ""
  | [fault] => "Error: " ++ fault ++ "\n"
  | [fault, cause] =>
      "Error: " ++ fault ++ "\n\nCaused by:\n    " ++ hanging "    " cause ++ "\n"
  | fault :: causes => "Error: " ++ fault ++ "\n\nCaused by:\n" ++ numbered 0 causes

/-! ## The cluster -/

/-- The configuration files that a text names, with colons between them. -/
def configFiles (text : String) : List String :=
  (text.splitOn ":").filter fun path => !path.isEmpty

/-- The configuration file that is used when none is named. -/
def defaultConfigFile : String := "/root/.kube/config"

/-- The first configuration file that is looked at. -/
def configFile (text : Option String) : String :=
  match text with
  | none => defaultConfigFile
  | some text => ((configFiles text).head?).getD defaultConfigFile

/-- The fault that no cluster is found, with its causes. -/
def noCluster (path : String) : List String :=
  let missing := "No such file or directory (os error 2)"
  let unread := "failed to read kubeconfig from '" ++ Text.quoted path ++ "': " ++ missing
  let unknown :=
    "failed to infer config: in-cluster: (failed to read an incluster environment variable: " ++
      "environment variable not found), kubeconfig: (" ++ unread ++ ")"
  ["Failed to infer configuration: " ++ unknown, unknown, unread, missing]

/-- The report of a start where no cluster is found. -/
def failure (texts : Table String) : String :=
  match Settings.ofTexts texts with
  | .error fault => report fault.chain
  | .ok _ => report (noCluster (configFile (texts.get? "KUBECONFIG")))

end Startup

end SecretProjection
