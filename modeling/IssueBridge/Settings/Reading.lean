import IssueBridge.GitHub.Reading
import IssueBridge.Settings.Basic

/-! # Reading settings

The forms of the settings and of the binding of a repository. Every part has a default.
-/

namespace IssueBridge

open Record

def Repo.form : Form Repo :=
  .record fun fs => Repo.mk
    <$> optionalMember fs "github_owner" .text ""
    <*> optionalMember fs "jira_project" .text ""
    <*> optionalMember fs "jira_issuetype" .text ""
    <*> optionalMember fs "jira_components" (.list .text) []
    <*> optionalMember fs "issuetype_label_map" (.table .text) []
    <*> optionalMember fs "component_label_map" (.table .text) []
    <*> optionalMember fs "transition_map" (.table (.list .text)) []

def Repo.model : Model Repo := ⟨"RepoConfig", Repo.form⟩

namespace Settings

def defaults : Settings := {}

def form : Form Settings :=
  .record fun fs => Settings.mk
    <$> optionalMember fs "database_url" .text defaults.databaseUrl
    <*> optionalMember fs "host" .text defaults.host
    <*> optionalMember fs "port" .whole defaults.port
    <*> optionalMember fs "log_level" .text defaults.logLevel
    <*> optionalMember fs "github_token" (.optional .text) none
    <*> optionalMember fs "github_base_url" .text defaults.githubUrl
    <*> optionalMember fs "webhook_secret" (.optional .text) none
    <*> optionalMember fs "jira_base_url" .text ""
    <*> optionalMember fs "jira_username" .text ""
    <*> optionalMember fs "jira_password" .text ""
    <*> optionalMember fs "do_presync" .bool defaults.presync
    <*> optionalMember fs "use_last_sync_time" .bool defaults.useWatermark
    <*> optionalMember fs "reconcile_interval_minutes" .whole defaults.intervalMinutes
    <*> optionalMember fs "reconcile_max_workers" .whole defaults.maxWorkers
    <*> optionalMember fs "creation_wait_attempts" .whole defaults.waitAttempts
    <*> optionalMember fs "creation_wait_base_delay_s" .float defaults.waitBaseDelay
    <*> optionalMember fs "markdown_converter_cmd" (.optional .text) none
    <*> optionalMember fs "markdown_converter_timeout_s" .float defaults.converterTimeout
    <*> optionalMember fs "display_timezone" .text defaults.timeZone
    <*> optionalMember fs "repos" (.table Repo.form) []
    <*> optionalMember fs "fix_versions" (.table (.list .text)) []
    <*> optionalMember fs "affects_versions" (.table (.list .text)) []
    <*> optionalMember fs "assignee_map" (.table .text) []
    <*> optionalMember fs "source_url_projects" (.list .text) []

def model : Model Settings := ⟨"Settings", form⟩

/-- The names of all settings. -/
def names : List String := [
  "database_url", "host", "port", "log_level", "github_token", "github_base_url", "webhook_secret",
  "jira_base_url", "jira_username", "jira_password", "do_presync", "use_last_sync_time",
  "reconcile_interval_minutes", "reconcile_max_workers", "creation_wait_attempts",
  "creation_wait_base_delay_s", "markdown_converter_cmd", "markdown_converter_timeout_s",
  "display_timezone", "repos", "fix_versions", "affects_versions", "assignee_map",
  "source_url_projects"]

/-- The settings that are lists or tables, which a plain text gives as JSON. -/
def structured : List String :=
  ["repos", "fix_versions", "affects_versions", "assignee_map", "source_url_projects"]

end Settings

end IssueBridge
