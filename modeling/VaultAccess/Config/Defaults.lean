/-!
# Defaults of configurations
-/

namespace VaultAccess

/-- Where the application-role method is mounted unless a configuration tells otherwise. -/
def defaultApprolePath : String := "approle"

/-- The database secret engine unless a configuration tells otherwise. -/
def defaultEngine : String := "database"

/-- The type of database credentials unless a configuration tells otherwise. -/
def defaultCredentialType : String := "static"

end VaultAccess
