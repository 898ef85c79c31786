import SecretProjection.Projection.Schema
import SecretProjection.Startup
import SecretProjection.Yaml

/-!
# The program

With the argument `definition` the program prints the definition of its resource.  Otherwise it
starts up with the settings of its environment.
-/

namespace SecretProjection

def settingNames : List String :=
  ["KUBECONFIG", "RETRY_INTERVAL_SECS", "SYNC_TIMEOUT_SECS", "VAULT_ADDR", "VAULT_SKIP_VERIFY",
    "WATCH_NAMESPACE"]

def environment : IO (Table String) := do
  let mut texts := Table.empty
  for name in settingNames do
    if let some text <- IO.getEnv name then
      texts := texts.insert name text
  return texts

end SecretProjection

open SecretProjection

def main (arguments : List String) : IO UInt32 := do
  match arguments with
  | ["definition"] =>
      IO.print (Yaml.document Projection.resourceDefinition)
      return 0
  | _ =>
      IO.eprint (Startup.failure (<- environment))
      return 1
