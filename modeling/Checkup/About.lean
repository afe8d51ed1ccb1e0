/-!
# About the package

Its version, and the names under which its types and functions are offered to programs.
-/

namespace Checkup

def version : String := "0.3.1"

/-- The beginning of the addresses where users find help on the checks of the local suite. -/
def defaultHintBaseUrl : String := "https://docs.portworx.com/troubleshoot/healthcheck#"

/-- The names that the package offers, in the order of their code points. -/
def publicNames : List String :=
  ["Category", "CategoryError", "CategoryID", "CheckObserver", "CheckPendingError", "CheckResult",
    "Checker", "ExecutionContext", "Failure", "HealthCheckConfig", "HealthCheckError",
    "HealthCheckState", "HealthChecker", "Ok", "Outcome", "Reporter", "ResourceError", "Runner",
    "SimpleReporter", "Skip", "VerboseSuccess", "__version__", "configure", "get_config",
    "is_category_error", "new_category", "new_category_with_context", "reset_config", "retry_for"]

end Checkup
