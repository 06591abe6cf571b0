import FactoryBundler.PolicyType.Catalog

/-!
# The policy types that come with the program

Two canned policy bodies: an authenticator web service with its status and operators, and a set of
variables with the groups that may read and update them. Each line ends in a newline.
-/

namespace FactoryBundler.PolicyType

/-- Lines as a text in which every line ends in a newline. -/
def bodyOf (lines : List String) : String :=
  String.join (lines.map (· ++ "\n"))

/-- The lines of the body of `authenticator`. -/
def authenticatorLines : List String := [
  "- !webservice",
  "",
  "- !group",
  "  id: authenticatable",
  "  annotations:",
  "    description: Group with permission to authenticate using this authenticator",
  "",
  "- !permit",
  "  role: !group authenticatable",
  "  privilege: [ read, authenticate ]",
  "  resource: !webservice",
  "",
  "- !webservice",
  "  id: status",
  "  annotations:",
  "    description: Web service for checking authenticator status",
  "",
  "- !group",
  "  id: operators",
  "  annotations:",
  "    description: Group with permission to check the authenticator status",
  "",
  "- !permit",
  "  role: !group operators",
  "  privilege: [ read ]",
  "  resource: !webservice status"]

/-- The lines of the body of `variable_set`, which refers to the anchor `variables`. -/
def variableSetLines : List String := [
  "- !group",
  "  id: consumers",
  "  annotations:",
  "    description: \"Roles that can see and retrieve credentials.\"",
  "- !group",
  "  id: administrators",
  "  annotations:",
  "    description: \"Roles that can update credentials.\"",
  "- !group",
  "  id: circuit-breaker",
  "  annotations:",
  "    description: Provides a mechanism for breaking access to this authenticator.",
  "    editable: true",
  "# Allows 'consumers' group to be cut in case of compromise",
  "- !grant",
  "  member: !group consumers",
  "  role: !group circuit-breaker",
  "# Administrators also has the consumers role",
  "- !grant",
  "  member: !group administrators",
  "  role: !group consumers",
  "# Consumers (via the circuit-breaker group) can read and execute",
  "- !permit",
  "  resource: *variables",
  "  privileges: [ read, execute ]",
  "  role: !group circuit-breaker",
  "# Administrators can update (they have read and execute via the consumers group)",
  "- !permit",
  "  resource: *variables",
  "  privileges: [ update ]",
  "  role: !group administrators"]

/-- The catalog of the canned policy types. -/
def builtin : Catalog :=
  (Catalog.empty.register "authenticator" (bodyOf authenticatorLines)).register "variable-set"
    (bodyOf variableSetLines)

end FactoryBundler.PolicyType
