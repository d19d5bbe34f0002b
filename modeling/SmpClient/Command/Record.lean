import SmpClient.Command.Basic
import SmpClient.Message.Log

/-!
# Commands for statistics, settings and logs
-/

namespace SmpClient

namespace Command

/-- Asks for the names of the groups of statistics. -/
def statisticsGroups : Command (List String) :=
  asking .read .statistics 1 Message.nothing (readNameList "stat_list")

/-- Asks for the counters of a group. -/
def statistics (name : String) : Command Statistics :=
  asking .read .statistics 0 (Message.readStatistics name) Statistics.read

/-- Asks for the value of a setting. -/
def setting (name : String) (maximum : Option Nat) : Command Bytes :=
  (asking .read .settings 0 (Message.readSetting name maximum) Setting.read).map Setting.value

def writeSetting (name : String) (value : Bytes) : Command Unit :=
  silent .write .settings 0 (Message.writeSetting name value)

def deleteSetting (name : String) : Command Unit :=
  silent .write .settings 1 (Message.deleteSetting name)

/-- Applies the settings that were written. -/
def commitSettings : Command Unit :=
  silent .write .settings 2 Message.nothing

/-- Loads the settings from storage. -/
def loadSettings : Command Unit :=
  silent .read .settings 3 Message.nothing

def saveSettings : Command Unit :=
  silent .write .settings 3 Message.nothing

/-- Asks for a page of log entries, from an index on. -/
def logPage (name : Option String) (index : Option Nat) : Command LogPage :=
  asking .read .log 0 (Message.showLogs name index none) LogPage.read

def clearLogs : Command Unit :=
  silent .write .log 1 Message.nothing

/-- Asks for the modules that write log entries. -/
def logModules : Command (List (String × Nat)) :=
  asking .read .log 3 Message.nothing (readNumberTable "module_map")

/-- Asks for the levels of log entries. -/
def logLevels : Command (List (String × Nat)) :=
  asking .read .log 4 Message.nothing (readNumberTable "level_map")

/-- Asks for the names of the logs. -/
def logNames : Command (List String) :=
  asking .read .log 5 Message.nothing (readNameList "log_list")

end Command

end SmpClient
