import CopyFormat.Text.Basic

/-!
What the program tells about itself.
-/

namespace CopyFormat.CommandLine

/-- The lines of the help text; the last one is empty. -/
def helpLines (program : Text) : List Text :=
  [
    program ++ Text.lit " - copy a page's title and URL in preset and custom formats",
    [],
    Text.lit "USAGE:",
    Text.lit "    " ++ program ++ Text.lit " [-v] <COMMAND> [OPTIONS]",
    [],
    Text.lit "COMMANDS:",
    Text.lit "    list                    List enabled presets in display order",
    Text.lit "        --all               Also list disabled presets",
    Text.lit "    copy <id>               Print the text a preset produces",
    Text.lit "        --title <text>      Page title",
    Text.lit "        --url <url>         Page URL",
    Text.lit "        --selected <text>   Selected text on the page",
    Text.lit "    format                  Run an ad-hoc format",
    Text.lit "        --template <tpl>    Template with \x7btitle\x7d \x7burl\x7d \x7bdomain\x7d " ++
      Text.lit "\x7bpath\x7d \x7bselectedText\x7d \x7bjs\x7d",
    Text.lit "        --search <pat>      Search pattern: /regex/flags or literal text",
    Text.lit "                            (no lookaround or backreferences such as (?=x) or \\1)",
    Text.lit "        --replace <text>    Replacement ($1, $&, $<name>, $$ ...)",
    Text.lit "        --script <src>      Expression whose value fills \x7bjs\x7d",
    Text.lit "        --title, --url, --selected as for copy",
    Text.lit "    eval <source>           Print the value of an expression",
    Text.lit "        --title, --url, --selected (optional)",
    Text.lit "    add-format              Save a custom format",
    Text.lit "        --name <name>       Button label",
    Text.lit "        --template, --search, --replace, --script as for format",
    Text.lit "    remove-format <id>      Delete a custom format",
    Text.lit "    toggle <id>             Enable or disable a preset",
    Text.lit "    order <id,id,...>       Set the display order",
    Text.lit "    help                    Show this help message",
    Text.lit "    version                 Show version information",
    [],
    Text.lit "OPTIONS:",
    Text.lit "    -v, --verbose       Debug logging on stderr",
    Text.lit "    -h, --help          Show this help message",
    Text.lit "    -V, --version       Show version information",
    [],
    Text.lit "ENVIRONMENT VARIABLES:",
    Text.lit "    COPYTAB_CONFIG      Settings file (default: <config dir>/copytab/settings.json)",
    Text.lit "    COPYTAB_LOG         Log level (error, warn, info, debug, trace)",
    [],
    Text.lit "EXAMPLES:",
    Text.lit "    " ++ program ++
      Text.lit " copy markdown-format --title \"Rust\" --url https://www.rust-lang.org/",
    Text.lit "    " ++ program ++
      Text.lit " format --template \"\x7btitle\x7d (\x7bdomain\x7d)\" --title Example" ++
      Text.lit " --url https://example.com/a",
    Text.lit "    " ++ program ++
      Text.lit " eval \"if (url.includes('github')) ? 'GitHub' : domain\"" ++
      Text.lit " --url https://github.com/x",
    Text.lit "    " ++ program ++
      Text.lit " add-format --name \"Short\" --template \"\x7bjs\x7d\"" ++
      Text.lit " --script \"title.substring(0,20)\"",
    []]

def help (program : Text) : Text := (helpLines program).flatMap fun l => l ++ ['\n']

def version : Text := Text.lit "0.4.0"

end CopyFormat.CommandLine
