import Scenarist.Text.Basic

/-! # Help

The texts that describe the program and its commands, in short and in full. -/

namespace Scenarist.CommandLine

def joinLines (lines : List String) : Text :=
  lines.flatMap fun line => line.toList ++ ['\n']

def versionText : Text :=
  "gherkin-robot 0.1.0\n"

def programHelp : Text :=
  joinLines
    ["Extract Gherkin from source comments and render it for Robot Framework",
      "",
      "Usage: gherkin-robot <COMMAND>",
      "",
      "Commands:",
      "  extract  Extract Gherkin embedded into source file comments [alias: feature]",
      "  render   Render Gherkin features as a Robot Framework test suite [alias: robot]",
      "",
      "Options:",
      "  -h, --help     Print help",
      "  -V, --version  Print version"]

def extractHelp : Text :=
  joinLines
    ["Extract Gherkin embedded into source file comments",
      "",
      "Usage: gherkin-robot extract [OPTIONS] [FILE]...",
      "",
      "Arguments:",
      "  [FILE]...  Source files to extract Gherkin from",
      "",
      "Options:",
      "      --as-features            Print every text as a standalone feature, wrapping bare scenarios",
      "      --start-marker <marker>  Marker opening an embedded Gherkin block (case-insensitive) [default:",
      "                               [gherkin]]",
      "      --end-marker <marker>    Marker closing an embedded Gherkin block (case-insensitive) [default:",
      "                               [end]]",
      "  -h, --help                   Print help"]

def renderHelpInFull : Text :=
  joinLines
    ["Render Gherkin features as a Robot Framework test suite",
      "",
      "Usage: gherkin-robot render [OPTIONS]",
      "",
      "Options:",
      "  -f, --features <path>",
      "          Feature files or directories, comma-separated.",
      "          ",
      "          Defaults to `./features`, unless `--embedded` files are given.",
      "",
      "  -e, --embedded <file>",
      "          Source files whose embedded Gherkin is rendered after the features, comma-separated",
      "",
      "  -t, --tags <tagexpr>",
      "          Tag expression to filter scenarios by.",
      "          ",
      "          Either a tag expression (`not @wip and @smoke`) or the legacy syntax (`~@wip &&",
      "          @smoke,@slow`). Tags from Feature, Rule and Scenario are merged together on filtering.",
      "          ",
      "          [default: ~@wip]",
      "",
      "  -l, --list",
      "          List scenario titles instead of rendering",
      "",
      "  -j, --json",
      "          Dump parsed features as JSON lines instead of rendering",
      "          ",
      "          [alias: --dump]",
      "",
      "  -F, --per-scenario",
      "          Render one test case per scenario instead of one per feature",
      "          ",
      "          [alias: --tpl.feature]",
      "",
      "  -r, --resources <ref>",
      "          Resource references for the settings section, comma-separated",
      "",
      "      --short-name-pattern <regex>",
      "          Regex whose first group is the short name of a feature URI",
      "          ",
      "          [default: ^(?:.*[/\\\\])?([^/\\\\]+)\\.feature$]",
      "",
      "      --start-marker <marker>",
      "          Marker opening an embedded Gherkin block (case-insensitive)",
      "          ",
      "          [default: [gherkin]]",
      "",
      "      --end-marker <marker>",
      "          Marker closing an embedded Gherkin block (case-insensitive)",
      "          ",
      "          [default: [end]]",
      "",
      "  -h, --help",
      "          Print help (see a summary with '-h')"]

def renderHelp : Text :=
  joinLines
    ["Render Gherkin features as a Robot Framework test suite",
      "",
      "Usage: gherkin-robot render [OPTIONS]",
      "",
      "Options:",
      "  -f, --features <path>             Feature files or directories, comma-separated",
      "  -e, --embedded <file>             Source files whose embedded Gherkin is rendered after the",
      "                                    features, comma-separated",
      "  -t, --tags <tagexpr>              Tag expression to filter scenarios by [default: ~@wip]",
      "  -l, --list                        List scenario titles instead of rendering",
      "  -j, --json                        Dump parsed features as JSON lines instead of rendering [alias:",
      "                                    --dump]",
      "  -F, --per-scenario                Render one test case per scenario instead of one per feature",
      "                                    [alias: --tpl.feature]",
      "  -r, --resources <ref>             Resource references for the settings section, comma-separated",
      "      --short-name-pattern <regex>  Regex whose first group is the short name of a feature URI",
      "                                    [default: ^(?:.*[/\\\\])?([^/\\\\]+)\\.feature$]",
      "      --start-marker <marker>       Marker opening an embedded Gherkin block (case-insensitive)",
      "                                    [default: [gherkin]]",
      "      --end-marker <marker>         Marker closing an embedded Gherkin block (case-insensitive)",
      "                                    [default: [end]]",
      "  -h, --help                        Print help (see more with '--help')"]

end Scenarist.CommandLine
