import TokenBinding.Configuration.Basic

/-!
# The configuration to start from

The text of a configuration file in which every setting has its default, with a comment on each.
-/

namespace TokenBinding.Configuration

/-- A configuration file with the defaults. -/
def template : String :=
  let c : Configuration := {}
  "\n".intercalate [
    "# idbind configuration",
    "",
    "[logging]",
    "# Log level or filter directive (trace, debug, info, warn, error).",
    "# RUST_LOG overrides this when set.",
    "level = \"" ++ c.logging.level ++ "\"",
    "",
    "# Log file path (optional, logs to stderr if not specified)",
    "# file = \"/var/log/idbind/idbind.log\"",
    "",
    "[metadata]",
    "# Per-request timeout for discovery documents and signing keys",
    "timeout = \"" ++ c.metadata.timeout.text ++ "\"",
    "",
    "# Refuse non-https provider URLs",
    "require_https = true",
    "",
    "[verification]",
    "# Enforce token expiry at verification time. Tokens embedded in messages",
    "# are historical proofs, so this is off by default.",
    "check_expiry = false",
    "",
    "# Clock skew tolerated when expiry is enforced",
    "leeway = \"" ++ c.verification.leeway.text ++ "\"",
    "",
    "# Identity providers. Without any [[providers]] entries the built-in",
    "# table is used. The discovery URL must be the issuer followed by",
    "# " ++ discoverySuffix ++ ", exactly.",
    "#",
    "# [[providers]]",
    "# display_id = \"Example\"",
    "# discovery_url = \"https://id.example.com" ++ discoverySuffix ++ "\"",
    "# client_id = \"your-client-id\"",
    "# redirect_uri = \"app.example:/oauth2redirect\"",
    ""]

end TokenBinding.Configuration
