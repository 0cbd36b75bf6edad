-- The settings file that a new project starts from, with every setting and its default.

namespace MenuOutline.Settings

def stockLines : List String := [
  "# Menuforge Configuration",
  "# =======================",
  "# All settings are optional. Remove or comment out any you don't need.",
  "# Values shown below are the defaults.",
  "#",
  "# Place this file next to the menu file it applies to.",
  "# Unknown keys will cause an error.",
  "",
  "# ---------------------------------------------------------------------------",
  "# Languages",
  "# ---------------------------------------------------------------------------",
  "[languages]",
  "# Language code of the first menu section. Also selects how \"&\" is spelled",
  "# in slugs (es: y, ca: i, fr: et, de: und, it/pt: e, otherwise: and).",
  "primary = \"es\"",
  "",
  "# Language code of the second menu section (after the ---------- line).",
  "# Without it, the second section is parsed but its texts are left out of",
  "# the dictionary and URL files.",
  "# secondary = \"ca\"",
  "",
  "# ---------------------------------------------------------------------------",
  "# Parsing",
  "# ---------------------------------------------------------------------------",
  "[parse]",
  "# Number of nesting levels allowed. Lines indented deeper fail the parse.",
  "max_depth = 3",
  "",
  "# Pages are paired with their translation by position. With strict pairing,",
  "# sections that list a different number of pages at any level are an error",
  "# instead of a warning.",
  "strict_pairing = false",
  "",
  "# ---------------------------------------------------------------------------",
  "# Validation",
  "# ---------------------------------------------------------------------------",
  "[validation]",
  "# Fewest pages (at any level) a menu may have.",
  "min_pages = 2",
  "",
  "# ---------------------------------------------------------------------------",
  "# Project",
  "# ---------------------------------------------------------------------------",
  "[project]",
  "# Commercial name, used in page titles (\"Page - Business\") and folder names.",
  "# business_name = \"Lar Living\"",
  "# domain = \"larliving.com\"",
  "# email = \"info@larliving.com\"",
  "# phone = \"+34 600 000 000\"",
  "",
  "# ---------------------------------------------------------------------------",
  "# Processing",
  "# ---------------------------------------------------------------------------",
  "[processing]",
  "# Maximum parallel workers when checking several menus.",
  "# Omit or comment out to auto-detect (= number of CPU cores).",
  "# max_processes = 4"]

def stockFile : String :=
  String.join (stockLines.map (· ++ "\n"))

end MenuOutline.Settings
