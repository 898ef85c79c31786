import SecretProjection.Controller
import SecretProjection.Settings
import SecretProjection.Vault.Source

/-!
# Setting up the controller

The settings of the program say how long attempts may take, how far apart they are after a
failure, and where Vault is found.
-/

namespace SecretProjection

namespace Settings

def toSync (settings : Settings) : Sync.Settings :=
  ⟨settings.syncTimeout, settings.retryInterval⟩

/-- The source of secrets, for each state of the cluster. -/
def source {σ : Type} (settings : Settings) (cluster : Cluster.Api σ)
    (exchange : Vault.Request -> Vault.Reply) (state : σ) :
    SecretSource Vault.Contact Vault.Session :=
  Vault.Access.toSource ⟨settings.vaultAddress, cluster, state, exchange⟩

end Settings

end SecretProjection
