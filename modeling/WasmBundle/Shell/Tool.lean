import WasmBundle.Shell.Tool.Actions
import WasmBundle.Shell.Tool.Base64
import WasmBundle.Shell.Tool.Blocks
import WasmBundle.Shell.Tool.Checksums
import WasmBundle.Shell.Tool.Columns
import WasmBundle.Shell.Tool.Comparing
import WasmBundle.Shell.Tool.Copying
import WasmBundle.Shell.Tool.Counting
import WasmBundle.Shell.Tool.Dating
import WasmBundle.Shell.Tool.Differing
import WasmBundle.Shell.Tool.Dump
import WasmBundle.Shell.Tool.Editing
import WasmBundle.Shell.Tool.Ends
import WasmBundle.Shell.Tool.Exchange
import WasmBundle.Shell.Tool.Factors
import WasmBundle.Shell.Tool.Finding
import WasmBundle.Shell.Tool.Folding
import WasmBundle.Shell.Tool.Interpreter
import WasmBundle.Shell.Tool.Joining
import WasmBundle.Shell.Tool.Listing
import WasmBundle.Shell.Tool.Listing.Fact
import WasmBundle.Shell.Tool.Making
import WasmBundle.Shell.Tool.Numbering
import WasmBundle.Shell.Tool.Ordering
import WasmBundle.Shell.Tool.Placement
import WasmBundle.Shell.Tool.Progression
import WasmBundle.Shell.Tool.Reckoning
import WasmBundle.Shell.Tool.Runs
import WasmBundle.Shell.Tool.Search
import WasmBundle.Shell.Tool.Showing
import WasmBundle.Shell.Tool.Sorting
import WasmBundle.Shell.Tool.Splitting
import WasmBundle.Shell.Tool.Supplying
import WasmBundle.Shell.Tool.Surroundings
import WasmBundle.Shell.Tool.Words

/-!
# The tools of the system

The table of the programs that scripts can start without bringing them along.
-/

namespace WasmBundle.Shell.Tool

/-- Names of tools that stand for other ones. -/
def aliases : List (String × String) := [("sh", "dash")]

/-- The tools, each under its name. -/
def all : List (String × Tool) :=
  [("[", bracketedCondition),
    ("arch", Surroundings.showMachine),
    ("awk", Actions.workThrough),
    ("base32", Base32.convert),
    ("base64", Base64.convert),
    ("basename", lastPart),
    ("bash", Interpreter.shell),
    ("cat", concatenate),
    ("chmod", changeMode),
    ("cksum", Checksums.sumByName),
    ("cmp", Comparing.compareFiles),
    ("comm", Sharing.showShared),
    ("cp", copy),
    ("cut", cutColumns),
    ("dash", Interpreter.shell),
    ("date", Dating.showDate),
    ("dd", Blocks.copy),
    ("diff", Differing.tellDifferences),
    ("dir", Listing.listInColumns),
    ("dirname", directoryPart),
    ("echo", echo),
    ("egrep", Search.searchAs "-E"),
    ("env", withEnvironment),
    ("expand", expandTabs),
    ("expr", Reckoning.reckon),
    ("factor", Factors.factor),
    ("false", always 1),
    ("fgrep", Search.searchAs "-F"),
    ("find", Finding.find),
    ("fold", foldLines),
    ("grep", Search.search),
    ("groups", Surroundings.showGroups),
    ("head", showStart),
    ("id", Surroundings.showIdentity),
    ("install", Placement.put),
    ("join", Joining.joinByField),
    ("link", linkOnce),
    ("ln", link),
    ("logname", Surroundings.showLogin),
    ("ls", Listing.list),
    ("mawk", Actions.workThrough),
    ("md5sum", Checksums.digestFiles Checksums.md5),
    ("mkdir", makeDirectory),
    ("mktemp", makeTemporary),
    ("mv", move),
    ("nawk", Actions.workThrough),
    ("nice", runNicely),
    ("nl", Numbering.number),
    ("nohup", runDetached),
    ("od", Dump.dump),
    ("paste", joinLines),
    ("printenv", showVariable),
    ("printf", formatted),
    ("pwd", printPlace),
    ("readlink", linkTarget),
    ("realpath", realPlace),
    ("rev", reverseChars),
    ("rgrep", Search.searchAs "-r"),
    ("rm", remove),
    ("rmdir", removeDirectory),
    ("sed", Editing.edit),
    ("seq", Progression.count),
    ("sha1sum", Checksums.digestFiles Checksums.sha1),
    ("sha224sum", Checksums.digestFiles Checksums.sha224),
    ("sha256sum", Checksums.digestFiles Checksums.sha256),
    ("sha384sum", Checksums.digestFiles Checksums.sha384),
    ("sha512sum", Checksums.digestFiles Checksums.sha512),
    ("sleep", pause),
    ("sort", Sorting.sort),
    ("split", Splitting.split),
    ("stat", tellFacts),
    ("stdbuf", runBuffered),
    ("sum", Checksums.sumFiles),
    ("sync", always 0),
    ("tac", reverseLines),
    ("tail", showEnd),
    ("tee", copyToFiles),
    ("test", fun _ _ words => condition words),
    ("timeout", runForTime),
    ("touch", touch),
    ("tr", Exchange.exchange),
    ("true", always 0),
    ("truncate", truncate),
    ("tsort", Ordering.order),
    ("tty", Surroundings.showTerminal),
    ("uname", Surroundings.showSystem),
    ("unexpand", makeTabs),
    ("uniq", Runs.showRuns),
    ("unlink", unlink),
    ("users", always 0),
    ("vdir", Listing.listInFull),
    ("wc", countAll),
    ("which", placesOfPrograms),
    ("who", always 0),
    ("whoami", Surroundings.showUser),
    ("xargs", Supplying.withArguments),
    ("yes", repeatLine)]

def names : List String := all.map (·.1)

end WasmBundle.Shell.Tool
