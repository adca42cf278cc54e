import ReleaseWatch.Value.Basic

/-!
# The default settings

The document that is written when there are no settings yet, with explanations for its reader, and
the value that it stands for. Both of its rules are samples.
-/

namespace ReleaseWatch

namespace DefaultSettings

/-- The lines of the default document. -/
def lines : List String :=
  ["---",
   "accept:",
   "# An entry is accepted by the first rule whose selectors all match.",
   "# Selectors: title (a regexp), link, torrent, size, category, authorized,",
   "# magnet, comment, date, guid, id, or any named capture of the title regexp.",
   "# A list value accepts any of its elements.",
   "# NOTE: underscores in titles are turned into spaces before filtering.",
   "- title: is a regular expression",
   "  note: a dash starts a new rule",
   "  sample_entry: true",
   "- examplemacro: Use macros like this",
   "  examplemacro2: [ or this, for multiple argument, macros ]",
   "  sample_entry: true",
   "# Rules marked sample_entry are ignored; delete them when you are done.",
   "deny:",
   "# Same format as accept. Deny rules are checked first.",
   "",
   "# Keys compared, in order, to pick the best release of the same name and ep.",
   "# The entry with the highest value for the first differing key is kept.",
   "tie_break: [ res, bit, ver ]",
   "# Feed to poll.",
   "rss: https://www.tokyotosho.info/rss.php?zwnj=0",
   "# Seconds between polls; 0 runs once.",
   "poll: 7200",
   "# With no save actions, accepted entries are only logged.",
   "save:",
   "  # Download .torrent files into this existing directory.",
   "  dir: torrents/",
   "  # Append torrent URLs to a file (\"-\" for stdout).",
   "  #urlfile: \"-\"",
   "  # Append magnet URIs to a file (\"-\" for stdout).",
   "  #magnetfile: \"-\"",
   "logging:",
   "  level: INFO",
   "  console: true",
   "  file:",
   "    enabled: false",
   "    path: logs/torrentsieve.log",
   "",
   "defines:",
   "# Macros usable from accept/deny rules and from other macros.",
   "# $1..$9 insert the call's arguments; pass several as a list.",
   "  examplemacro:",
   "    title: $1",
   "  examplemacro2:",
   "    examplemacro: $1, $2 $3",
   "    authorized: true",
   "",
   "# Title regexp captures understood by the version deduplication:",
   "#   (?<name>...)  series name          (?<group>...) release group",
   "#   (?<ep>\\d+)(?:-(?<endep>\\d+))?     episode or episode range",
   "#   (?:v(?<ver>\\d+))?                  version tag",
   "#   (?<crc>[0-9A-Fa-f]\x7b8\x7d)             CRC32",
   "#   (?<res>\\d+)  vertical resolution   (?<bit>\\d+)  bit depth"]

/-- The text of the default document. -/
def text : String :=
  String.join (lines.map (· ++ "\n"))

/-- A mapping with texts as its keys. -/
def mapping (fields : List (String × Value)) : Value :=
  .mapping (fields.map fun (key, value) => (.text key, value))

/-- The sample rules for accepted entries. -/
def samples : List Value :=
  [mapping [("title", .text "is a regular expression"), ("note", .text "a dash starts a new rule"),
     ("sample_entry", .bool true)],
   mapping [("examplemacro", .text "Use macros like this"),
     ("examplemacro2", .list [.text "or this", .text "for multiple argument", .text "macros"]),
     ("sample_entry", .bool true)]]

/-- Where log lines go by default. -/
def logging : Value :=
  mapping [("level", .text "INFO"), ("console", .bool true),
    ("file", mapping [("enabled", .bool false), ("path", .text "logs/torrentsieve.log")])]

/-- The sample definitions. -/
def definitions : Value :=
  mapping [("examplemacro", mapping [("title", .text "$1")]),
    ("examplemacro2", mapping [("examplemacro", .text "$1, $2 $3"), ("authorized", .bool true)])]

/-- The value of the default document. -/
def document : Value :=
  mapping [("accept", .list samples), ("deny", .null),
    ("tie_break", .list [.text "res", .text "bit", .text "ver"]),
    ("rss", .text "https://www.tokyotosho.info/rss.php?zwnj=0"), ("poll", .int 7200),
    ("save", mapping [("dir", .text "torrents/")]), ("logging", logging),
    ("defines", definitions)]

end DefaultSettings

end ReleaseWatch
