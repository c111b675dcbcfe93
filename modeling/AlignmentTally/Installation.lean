import AlignmentTally.Command.Arranging
import AlignmentTally.Command.Batches
import AlignmentTally.Command.Blocks
import AlignmentTally.Command.Checksum
import AlignmentTally.Command.Columns
import AlignmentTally.Command.Comparison
import AlignmentTally.Command.Count
import AlignmentTally.Command.Dating
import AlignmentTally.Command.Difference
import AlignmentTally.Command.Dump
import AlignmentTally.Command.Editor.Run
import AlignmentTally.Command.Encoding
import AlignmentTally.Command.Expression
import AlignmentTally.Command.Factors
import AlignmentTally.Command.Fields
import AlignmentTally.Command.Figures
import AlignmentTally.Command.Filing.Describing
import AlignmentTally.Command.Filing.Finding
import AlignmentTally.Command.Filing.Listing
import AlignmentTally.Command.Filing.Moving
import AlignmentTally.Command.Filing.Paths
import AlignmentTally.Command.Joining
import AlignmentTally.Command.Lines
import AlignmentTally.Command.Numbering
import AlignmentTally.Command.Precedence
import AlignmentTally.Command.Printf
import AlignmentTally.Command.Repetition
import AlignmentTally.Command.Rules.Run
import AlignmentTally.Command.Search.Run
import AlignmentTally.Command.Sequence
import AlignmentTally.Command.Shuffling
import AlignmentTally.Command.Simple
import AlignmentTally.Command.Sorting
import AlignmentTally.Command.Splitting
import AlignmentTally.Command.Starting
import AlignmentTally.Command.Translate
import AlignmentTally.Machine.Run
import AlignmentTally.Run
import AlignmentTally.Shell.Start

/-!
# An emulated system

A machine for launched programs, as far as scripts and the common commands: what it has before
anything is launched, and what comes of launching an invocation on it (`launch?`). Nothing comes of
a program that never ends.

## One launcher among others

No other module knows of this one but the outermost, which puts the answer into the `World` of a run
(`settle?`); a run itself takes its launcher as it is given. Since a run asks its launcher for one
invocation only, the answer to that one is all that has to be found out beforehand, and the launcher
of the world is the one that gives it.

Programs for a real processor are not emulated: to this machine they are files that are no program.
A launcher for such a program is another launcher, and whatever is said of runs is said of that one
as well.
-/

namespace AlignmentTally.Installation

open Machine Command

/-- The commands that work on texts and files, each under its name. -/
def works : List (String × (List Text → Work Unit)) := [
  ("true", fun _ ↦ Simple.true_), ("false", fun _ ↦ Simple.false_), ("echo", Simple.echo),
  ("yes", Simple.yes), ("sleep", Simple.sleep), ("basename", Simple.basename),
  ("dirname", Simple.dirname), ("pwd", Simple.pwd), ("whoami", Simple.whoami),
  ("id", Simple.id), ("uname", Simple.uname), ("printenv", Simple.printenv),
  ("tty", Simple.tty), ("arch", Simple.arch), ("groups", Simple.groups),
  ("logname", Simple.logname), ("sync", Simple.sync), ("test", Simple.test), ("[", Simple.test),
  ("printf", Printf.printf), ("cat", Lines.cat), ("tac", Lines.tac), ("rev", Lines.rev),
  ("tee", Lines.tee), ("head", Ends.head), ("tail", Ends.tail), ("wc", Count.wc),
  ("nl", Numbering.nl), ("cut", Fields.cut), ("paste", Fields.paste), ("fold", Columns.fold),
  ("expand", Columns.expand), ("unexpand", Columns.unexpand), ("tr", Translate.tr),
  ("sort", Sorting.sort), ("uniq", Repetition.uniq), ("comm", Comparison.comm),
  ("cmp", Comparison.cmp), ("diff", Difference.diff), ("seq", Sequence.seq),
  ("factor", Factors.factor), ("split", split), ("getopt", getopt), ("numfmt", numfmt),
  ("shuf", shuf),
  ("join", Joining.join), ("tsort", Precedence.tsort), ("date", Dating.date),
  ("base64", Encoding.run (some Encoding.base64)),
  ("base32", Encoding.run (some Encoding.base32)), ("basenc", Encoding.run none),
  ("od", Dump.od), ("expr", Expression.expr), ("grep", Search.grep), ("egrep", Search.grep),
  ("fgrep", Search.grep), ("ls", Filing.ls), ("dir", Filing.dir),
  ("vdir", Filing.vdir), ("mkdir", Filing.mkdir),
  ("rmdir", Filing.rmdir), ("rm", Filing.rm), ("unlink", Filing.unlink), ("touch", Filing.touch),
  ("truncate", Filing.truncate), ("mktemp", Filing.mktemp), ("cp", Filing.cp), ("mv", Filing.mv),
  ("ln", Filing.ln), ("link", Filing.link), ("chmod", Filing.chmod),
  ("mkfifo", Filing.mkfifo), ("mknod", Filing.mknod), ("dd", dd),
  ("readlink", Filing.readlink), ("realpath", Filing.realpath), ("stat", Filing.stat),
  ("find", Filing.Finding.find),
  ("sed", Editor.sed), ("env", Starting.env), ("nice", Starting.nice), ("nohup", Starting.nohup),
  ("stdbuf", Starting.stdbuf), ("timeout", Starting.timeout), ("xargs", xargs),
  ("md5sum", Checksum.digestCommand .md5), ("sha1sum", Checksum.digestCommand .sha1),
  ("sha224sum", Checksum.digestCommand .sha224), ("sha256sum", Checksum.digestCommand .sha256),
  ("sha384sum", Checksum.digestCommand .sha384), ("sha512sum", Checksum.digestCommand .sha512),
  ("b2sum", Checksum.digestCommand (.blake2b 64)), ("cksum", Checksum.cksum),
  ("sum", Checksum.sum), ("which", Starting.which), ("awk", Rules.awk), ("mawk", Rules.awk)]

/-- The names of the shells. -/
def shells : List String := ["sh", "dash", "bash"]

/-- The names of the commands. -/
def commands : List String := shells ++ works.map Prod.fst

/-- The commands as processes. -/
def programs : Programs := fun command arguments values ↦
  let name := arguments.headD command
  match command with
  | "sh" | "dash" => Shell.program .plain arguments values
  | "bash" => Shell.program .extended arguments values
  | command =>
    match works.lookup command with
    | some work => (work (arguments.drop 1)).toProcess name values
    | none => .exit 127

/-- The devices. -/
def devices : List (String × Node) :=
  [("null", .device .null), ("zero", .device .zero), ("full", .device .full),
    ("random", .device .noise), ("urandom", .device .noise), ("tty", .device .terminal),
    ("pts", .directory []), ("shm", .directory []), ("mqueue", .directory []),
    ("ptmx", .link "pts/ptmx"), ("core", .link "/proc/kcore"), ("stdin", .link "/proc/self/fd/0"), ("stdout", .link "/proc/self/fd/1"),
    ("stderr", .link "/proc/self/fd/2"), ("fd", .link "/proc/self/fd")]

/-- What a process can see of itself, apart from its streams. -/
def processes : List (String × Node) := [("self", .directory [("fd", .directory [])])]

/-- What is known about users. -/
def users : String :=
  let others : List String := ["daemon:x:1:1:daemon:/usr/sbin", "bin:x:2:2:bin:/bin",
    "sys:x:3:3:sys:/dev", "sync:x:4:65534:sync:/bin", "games:x:5:60:games:/usr/games",
    "man:x:6:12:man:/var/cache/man", "lp:x:7:7:lp:/var/spool/lpd", "mail:x:8:8:mail:/var/mail",
    "news:x:9:9:news:/var/spool/news", "uucp:x:10:10:uucp:/var/spool/uucp",
    "proxy:x:13:13:proxy:/bin", "www-data:x:33:33:www-data:/var/www",
    "backup:x:34:34:backup:/var/backups", "list:x:38:38:Mailing List Manager:/var/list",
    "irc:x:39:39:ircd:/run/ircd", "_apt:x:42:65534::/nonexistent",
    "nobody:x:65534:65534:nobody:/nonexistent"]
  let line (user : String) : String :=
    user ++ (if user.startsWith "sync:" then ":/bin/sync\n" else ":/usr/sbin/nologin\n")
  "root:x:0:0:root:/root:/bin/bash\n" ++ String.join (others.map line)

/-- What is known about groups. -/
def groups : String :=
  let known : List (String × Nat) := [("root", 0), ("daemon", 1), ("bin", 2), ("sys", 3),
    ("adm", 4), ("tty", 5), ("disk", 6), ("lp", 7), ("mail", 8), ("news", 9), ("uucp", 10),
    ("man", 12), ("proxy", 13), ("kmem", 15), ("dialout", 20), ("fax", 21), ("voice", 22),
    ("cdrom", 24), ("floppy", 25), ("tape", 26), ("sudo", 27), ("audio", 29), ("dip", 30),
    ("www-data", 33), ("backup", 34), ("operator", 37), ("list", 38), ("irc", 39), ("src", 40),
    ("shadow", 42), ("utmp", 43), ("video", 44), ("sasl", 45), ("plugdev", 46), ("staff", 50),
    ("games", 60), ("users", 100), ("nogroup", 65534)]
  String.join (known.map fun (name, number) ↦ name ++ ":x:" ++ toString number ++ ":\n")

/-- The files that describe the system. -/
def description : List (String × Node) :=
  let text (name content : String) : String × Node := (name, .file (Utf8.encode content) false)
  [text "passwd" users, text "group" groups, text "shadow" "root:*:19700:0:99999:7:::\n",
    text "hosts" "127.0.0.1\tlocalhost\n", text "hostname" "localhost\n", text "shells" "/bin/sh\n",
    text "fstab" "", text "profile" "", text "bash.bashrc" ""]

/-- The root directory, without the directories of users. -/
def root : Node :=
  let programs : Node :=
    .directory (commands.map fun name ↦ (name, .file (Disk.commandOctets name) true))
  let empty (name : String) : String × Node := (name, .directory [])
  let link (name target : String) : String × Node := (name, .link target)
  .directory [
    link "bin" "usr/bin", empty "boot", ("dev", .directory devices),
    ("etc", .directory description), empty "home", link "lib" "usr/lib",
    link "lib64" "usr/lib64", empty "media", empty "mnt", empty "opt",
    ("proc", .directory processes), empty "root", empty "run", link "sbin" "usr/sbin", empty "srv", empty "sys", empty "tmp",
    ("usr", .directory [
      ("bin", programs), empty "games", empty "include", empty "lib", empty "lib64",
      empty "libexec",
      ("local", .directory [empty "bin", empty "etc", empty "games", empty "include", empty "lib",
        link "man" "share/man", empty "sbin", empty "share", empty "src"]),
      empty "sbin", empty "share", empty "src"]),
    ("var", .directory [empty "backups", empty "cache", empty "lib", empty "local",
      link "lock" "/run/lock", empty "log", empty "mail", empty "opt", link "run" "/run",
      empty "spool", empty "tmp"])]

/-- The modes of files that others than their owners may do more or less with than usual. -/
def modes : List (String × Nat) :=
  [("/tmp", 1023), ("/var/tmp", 1023), ("/dev/shm", 1023), ("/dev/mqueue", 1023), ("/root", 448),
    ("/proc", 365), ("/sys", 365), ("/etc/shadow", 416)]

/-- A disk on which the files of the system have their modes. -/
def withModes (disk : Disk) : Disk :=
  modes.foldl
    (fun disk (path, mode) ↦
      match disk.findWith false Disk.root path.toList with
      | .ok number => disk.setMode number mode
      | .error _ => disk)
    disk

/-- A disk on which processes find their streams. -/
def withStreams (disk : Disk) : Disk :=
  match disk.find Disk.root "/proc/self/fd" with
  | .ok directory =>
    let (disk, entries) := (List.range 64).foldl
      (fun (disk, entries) n ↦
        let (disk, number) :=
          disk.add { content := .stream n, mode := 438, changed := firstTime }
        (disk, entries ++ [(Text.ofNat n, number)]))
      (disk, [])
    disk.setEntries firstTime directory fun _ ↦ entries
  | .error _ => disk

/-- The values that programs are given, with others. -/
def values (others : List (String × String)) : Values :=
  [("HOME", "/root"), ("PATH", "/usr/local/sbin:/usr/local/bin:/usr/sbin:/usr/bin:/sbin:/bin")] ++
    others |>.map fun (name, text) ↦ (Text.ofString name, Text.ofString text)

/-! ### Launching -/

/-- What is started under a name with arguments. A name with a slash is a path; any other one is
looked up in directories, where a file that may not be executed is passed over but remembered. -/
def find (disk : Disk) (directory : Nat) (name : Text) (arguments : List Text) :
    Except SystemError (String × List Text) :=
  if name.contains '/' then Program.find disk directory name arguments
  else if name.isEmpty then .error .notFound
  else if Files.maxNameSize < name.length then .error .nameTooLong
  else
    let paths := (Program.searchPath Program.defaultSearchPath).map (Program.pathIn · name)
    let tried := paths.map fun path ↦ Program.find disk directory path arguments
    match tried.find? isAnswer with
    | some answer => answer
    | none =>
      if tried.any isRefused then .error .permissionDenied else .error .notFound
where
  /-- Whether looking further would not help. -/
  isAnswer (found : Except SystemError (String × List Text)) : Bool :=
    match found with
    | .error .notFound | .error .notADirectory | .error .permissionDenied => false
    | _ => true
  /-- Whether something is there that may not be executed. -/
  isRefused (found : Except SystemError (String × List Text)) : Bool :=
    match found with
    | .error .permissionDenied => true
    | _ => false

/-- What a machine leaves behind whose run is over. -/
def launched? (files : Files) (machine : State) : Option Launched := do
  let status ← machine.result
  guard machine.isOver
  return {
    octets := machine.output.toOctets
    status
    files := { files with root := machine.disk.toTree } }

/-- What comes of launching an invocation; nothing if it never ends. -/
def launch? (files : Files) (environment : Environment) (invocation : Invocation) :
    Option (Except LaunchError Launched) :=
  let disk := withStreams (withModes (Disk.ofTree files.root))
  let here := Text.join ['/'] ([] :: files.workingDirectory.map Text.ofString)
  let directory := (disk.find Disk.root ('/' :: here)).toOption.getD Disk.root
  let name := Text.ofString invocation.program
  let arguments := name :: invocation.args.map Text.ofString
  match find disk directory name arguments with
  | .error cause => some (.error (.start cause))
  | .ok (command, arguments) =>
    let process := programs command arguments (values environment.values)
    (launched? files (State.runToEnd programs disk directory process)).map .ok

/-- A world in which what its run launches has been launched, if that ends. -/
def settle? (world : World) : Option World :=
  match Run.launches? world with
  | none => some world
  | some invocation => do
    let answer ← launch? world.files world.environment invocation
    return { world with launcher := fun _ _ _ ↦ answer }

end AlignmentTally.Installation
