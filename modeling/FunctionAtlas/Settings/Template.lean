/-!
Contract: the settings file that a new project starts from.

Owns: its text, which explains every setting and gives the defaults.
-/

namespace FunctionAtlas.Settings

/-- The lines of a new settings file. -/
def templateLines : List String :=
  [ "# pysummary configuration",
    "# Every key is optional; command-line flags override these values.",
    "version: \"1\"",
    "",
    "# File extensions to analyze (without the dot)",
    "extensions:",
    "  - py",
    "",
    "# Glob patterns for paths to skip",
    "excluded_paths:",
    "  - \"**/venv/**\"",
    "  - \"**/.tox/**\"",
    "  - \"**/build/**\"",
    "",
    "# Descend into hidden directories",
    "include_hidden: false",
    "",
    "# Worker threads (omit for one per core)",
    "# jobs: 4",
    "",
    "output:",
    "  directory: \".\"",
    "  summary_file: function_summaries.txt",
    "  snippets_file: code_snippets.txt",
    "  ast_file: function_asts.txt",
    "  # Write every view into one file instead",
    "  # combined_file: combined_output.txt" ]

/-- The text of a new settings file. -/
def template : String := String.join (templateLines.map fun line => line ++ "\n")

end FunctionAtlas.Settings
