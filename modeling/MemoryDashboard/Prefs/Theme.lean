/-!
# Themes

The dashboard has a light and a dark theme. A saved theme name picks the theme of that name;
an unknown name picks the dark theme when it starts with `dark` and the light theme otherwise.
-/

namespace MemoryDashboard

namespace Prefs

/-- Whether a theme is light or dark. -/
inductive ThemeMode where
  | light
  | dark
  deriving DecidableEq, Inhabited, Repr

/-- The name of a mode. -/
def ThemeMode.name : ThemeMode → String
  | .light => "light"
  | .dark => "dark"

/-- A theme: its identifier, label and mode. -/
structure ThemeOption where
  id : String
  label : String
  mode : ThemeMode
  deriving DecidableEq, Inhabited, Repr

/-- The light theme. -/
def lightTheme : ThemeOption := ⟨"light", "Light", .light⟩

/-- The dark theme. -/
def darkTheme : ThemeOption := ⟨"dark", "Dark", .dark⟩

/-- The themes offered. -/
def themeOptions : List ThemeOption := [lightTheme, darkTheme]

/-- The theme for a name. -/
def resolveTheme (themeId : String) : ThemeOption :=
  match themeOptions.find? (·.id == themeId) with
  | some t => t
  | none => if themeId.startsWith "dark" then darkTheme else lightTheme

end Prefs

end MemoryDashboard
