import SqlLint.Directory
import SqlLint.Settings.Toml

/-!
# Loading and saving settings

Settings that are loaded from a file are validated; settings are saved as they are.
-/

set_option autoImplicit false

namespace SqlLint.Settings

/-- The settings of a file. -/
def load (directory : Directory) (path : String) : Except Fault Settings := do
  ofTomlText (← directory.readText path)

/-- The directory after settings were saved to a file. -/
def save (settings : Settings) (directory : Directory) (path : String) :
    Except Fault Directory :=
  directory.write path settings.toTomlText

end SqlLint.Settings
