import AddonAtlas.Shell.Utility.Arguments
import AddonAtlas.Shell.Utility.Columns
import AddonAtlas.Shell.Utility.Compare
import AddonAtlas.Shell.Utility.Dates
import AddonAtlas.Shell.Utility.Digests
import AddonAtlas.Shell.Utility.Display
import AddonAtlas.Shell.Utility.EditStream
import AddonAtlas.Shell.Utility.Encoding
import AddonAtlas.Shell.Utility.Extraction
import AddonAtlas.Shell.Utility.Find
import AddonAtlas.Shell.Utility.Identity
import AddonAtlas.Shell.Utility.Layout
import AddonAtlas.Shell.Utility.Lookup
import AddonAtlas.Shell.Utility.Manner
import AddonAtlas.Shell.Utility.Numbers
import AddonAtlas.Shell.Utility.Order
import AddonAtlas.Shell.Utility.Packing
import AddonAtlas.Shell.Utility.Pages
import AddonAtlas.Shell.Utility.Pieces
import AddonAtlas.Shell.Utility.Placing
import AddonAtlas.Shell.Utility.Recoding
import AddonAtlas.Shell.Utility.RecordProgram
import AddonAtlas.Shell.Utility.Starting
import AddonAtlas.Shell.Utility.Testing
import AddonAtlas.Shell.Utility.Translate

/-!
# Programs by their names

The programs that every system has, as far as scripts use them. Each one is run under the name by which it was
called, which stands in front of its messages.
-/

namespace AddonAtlas.Shell

namespace Utility

open Shell.Action

/-! ## Small programs -/

/-- The texts behind each other, with escapes in them read if an option asks for it. -/
def echo (name : String) (arguments : List String) : Action Nat :=
  let isOption (a : String) : Bool :=
    match a.toList with
    | '-' :: c :: cs => (c :: cs).all fun c => "neE".toList.contains c
    | _ => false
  let options := (arguments.takeWhile isOption).flatMap fun a => a.toList.drop 1
  let texts := arguments.dropWhile isOption
  let readsEscapes := (options.filter (· ≠ 'n')).getLast? = some 'e'
  let ending := if options.contains 'n' then [] else ['\n']
  let text :=
    if readsEscapes then
      let (cs, stops) := Format.unescaped (" ".intercalate texts)
      if stops then cs else cs ++ ending
    else (" ".intercalate texts).toList ++ ending
  finish name 1 text 0

def printFormatted (name : String) (arguments : List String) : Action Nat := do
  let arguments := if arguments.head? = some "--" then arguments.drop 1 else arguments
  match arguments with
  | [] => misuse name "missing operand" 1
  | format :: rest =>
    let p := Format.printf format rest
    for c in p.complaints do
      let shown := (c.splitOn ": ").headD ""
      let reason := (c.drop (shown.length + 2)).toString
      let reason :=
        if reason = "expected numeric value" then "expected a numeric value"
        else if reason = "not completely converted" then "value not completely converted"
        else reason
      complain name (Quotation.quoted shown ++ ": " ++ reason)
    let status ← finish name 1 p.output 0
    match p.failure with
    | some e => giveUp name e 1
    | none => return if p.complaints.isEmpty then status else 1

/-- Writes a line that is known from the start. -/
def tell (name : String) (text : String) : Action Nat :=
  finish name 1 (text ++ "\n").toList 0

/-- What is said about the name of the machine. -/
def machineNameUsage : List String :=
  ["Usage: hostname [-b] \x7bhostname|-F file\x7d         set host name (from file)",
    "       hostname [-a|-A|-d|-f|-i|-I|-s|-y]       display formatted name",
    "       hostname                                 display host name",
    "",
    "       \x7byp,nis,\x7ddomainname \x7bnisdomain|-F file\x7d  set NIS domain name (from file)",
    "       \x7byp,nis,\x7ddomainname                      display NIS domain name",
    "",
    "       dnsdomainname                            display dns domain name",
    "",
    "       hostname -V|--version|-h|--help          print info and exit",
    "",
    "Program name:",
    "       \x7byp,nis,\x7ddomainname=hostname -y",
    "       dnsdomainname=hostname -d",
    "",
    "Program options:",
    "    -a, --alias            alias names",
    "    -A, --all-fqdns        all long host names (FQDNs)",
    "    -b, --boot             set default hostname if none available",
    "    -d, --domain           DNS domain name",
    "    -f, --fqdn, --long     long host name (FQDN)",
    "    -F, --file             read host name or NIS domain name from given file",
    "    -i, --ip-address       addresses for the host name",
    "    -I, --all-ip-addresses all addresses for the host",
    "    -s, --short            short host name",
    "    -y, --yp, --nis        NIS/YP domain name",
    "",
    "Description:",
    "   This command can get or set the host name or the NIS domain name. You can",
    "   also get the DNS domain or the FQDN (fully qualified domain name).",
    "   Unless you are using bind or NIS for host lookups you can change the",
    "   FQDN (Fully Qualified Domain Name) and the DNS domain name (which is",
    "   part of the FQDN) in the /etc/hosts file."]

/-- What is said about the way to speak to a terminal. -/
def terminalUsage : List String :=
  ["Usage: tput [options] [command]",
    "",
    "Options:",
    "  -S <<       read commands from standard input",
    "  -T TERM     use this instead of $TERM",
    "  -V          print curses-version",
    "  -v          verbose, show warnings",
    "  -x          do not try to clear scrollback",
    "",
    "Commands:",
    "  clear       clear the screen",
    "  init        initialize the terminal",
    "  reset       reinitialize the terminal",
    "  capname     unlike clear/init/reset, print value for capability \"capname\""]

/-- What is said about packages. -/
def packageUsage : List String :=
  ["",
    "Type dpkg --help for help about installing and deinstalling packages [*];",
    "Use 'apt' or 'aptitude' for user-friendly package management;",
    "Type dpkg -Dhelp for a list of dpkg debug flag values;",
    "Type dpkg --force-help for a list of forcing options;",
    "Type dpkg-deb --help for help about manipulating *.deb files;",
    "",
    "Options marked [*] produce a lot of output - pipe it through 'less' or 'more' !"]

/-- What the programs for packages say behind a refusal. -/
def packageHints : List (String × List String) :=
  [("dpkg", packageUsage), ("dpkg-query", ["", "Use --help for help about querying packages."]),
    ("dpkg-deb", ["", "Type dpkg-deb --help for help about manipulating *.deb files;",
      "Type dpkg --help for help about installing and deinstalling packages."]),
    ("dpkg-divert", ["", "Use --help for help about diverting files."]),
    ("dpkg-split", ["", "Type dpkg-split --help for help."]),
    ("dpkg-statoverride", ["", "Use --help for help about overriding file stat information."]),
    ("dpkg-trigger", ["", "Type dpkg-trigger --help for help about this utility."])]

/-- Refuses the first option of arguments, in the words of a program. -/
def refuseOptions (program name : String) (status : Nat) (arguments : List String) : Action Nat := do
  let isComparison := program = "diff3" || program = "sdiff"
  let isKnown (a : String) : Bool := (isComparison && a = "-E") || (program = "dpkg" && (a = "-E" || a = "-R"))
  match arguments.find? fun a => a.startsWith "-" && a ≠ "-" && !isKnown a with
  | some a =>
    let fault :=
      match a.toList with
      | _ :: c :: _ =>
        if c = '-' then "unrecognized option '" ++ a ++ "'" else "invalid option -- '" ++ String.singleton c ++ "'"
      | _ => ""
    if ["apt", "apt-cache", "apt-config", "apt-get", "apt-mark"].contains program then
      say ("E: Command line option '" ++ (a.drop 1).toString ++ "' [from " ++ a ++
        "] is not understood in combination with the other options.\n")
      return status
    else if let some hints := packageHints.lookup program then
      complain name ("error: unknown option " ++ a)
      say (String.join (hints.map (· ++ "\n")))
      return status
    else if program = "update-alternatives" then
      complain name ("error: unknown argument " ++ Quotation.quoted a)
      return status
    else if program = "getconf" then
      say ("Usage: " ++ name ++ " [-v specification] variable_name [pathname]\n       " ++ name ++ " -a [pathname]\n")
      return status
    else if program = "tput" then
      complain name fault
      say (String.join (terminalUsage.map (· ++ "\n")))
      return status
    else if program = "hostname" then
      complain name fault
      finish name status (String.join (machineNameUsage.map (· ++ "\n"))).toList status
    else if isComparison then
      complain name fault
      say (name ++ ": Try '" ++ name ++ " --help' for more information.\n")
      return status
    else if program = "tar" then
      complain name fault
      say ("Try '" ++ name ++ " --help' or '" ++ name ++ " --usage' for more information.\n")
      return status
    else if ["getent", "locale"].contains program then
      let quote := String.singleton (Char.ofNat 96)
      complain name fault
      say ("Try " ++ quote ++ name ++ " --help' or " ++ quote ++ name ++ " --usage' for more information.\n")
      return status
    else misuse name fault status
  | none => return 0

/-! ## All programs -/

/-- Runs a program by its name in the system. `name` is the name by which it was called. -/
def run (runShell : (program name : String) → (arguments : List String) → Action Nat) (command : Starter)
    (name program : String) (arguments : List String) : Action Nat := do
  match program with
  | "true" => return 0
  | "false" => return 1
  | "cat" => concatenate name arguments
  | "tac" => reverseLines name arguments
  | "rev" => mirrorLines name arguments
  | "head" => head name arguments
  | "tail" => tail name arguments
  | "wc" => countAll name arguments
  | "nl" => numberLines name arguments
  | "od" => dump name arguments
  | "base64" => base64 name arguments
  | "base32" => encodeBytes (some "base32") name arguments
  | "basenc" => encodeBytes none name arguments
  | "gzip" => packFiles [] arguments
  | "gunzip" | "uncompress" => packFiles ["-d"] arguments
  | "zcat" => packFiles ["-cd"] arguments
  | "pr" => paginate name arguments
  | "date" => writeMoment name arguments
  | "tsort" => orderPairs name arguments
  | "shuf" => shuffle name arguments
  | "truncate" => resize name arguments
  | "link" => linkOnce name arguments
  | "unlink" => unlinkOnce name arguments
  | "install" => install name arguments
  | "sync" =>
    withOptions name (.of "df" [("data", "d"), ("file-system", "f"), ("help", "help"), ("version", "version")]) true 1
      arguments fun _ _ => return 0
  | "md5sum" => digests "md5" name arguments
  | "sha1sum" => digests "sha1" name arguments
  | "sha224sum" => digests "sha224" name arguments
  | "sha256sum" => digests "sha256" name arguments
  | "sha384sum" => digests "sha384" name arguments
  | "sha512sum" => digests "sha512" name arguments
  | "b2sum" => digests "blake2b" name arguments
  | "cksum" => checksums name arguments
  | "sum" => sums name arguments
  | "sort" => sort writeText name arguments
  | "uniq" => unrepeated writeText name arguments
  | "cut" => cut name arguments
  | "paste" => paste name arguments
  | "comm" => common name arguments
  | "join" => join name arguments
  | "tr" => translate name arguments
  | "expand" => expandTabs name arguments
  | "unexpand" => unexpandTabs name arguments
  | "fold" => fold name arguments
  | "fmt" => fillParagraphs name arguments
  | "seq" => sequence name arguments
  | "expr" => evaluateExpression name arguments
  | "numfmt" => convertNumbers name arguments
  | "factor" => factor name arguments
  | "split" => split name arguments
  | "csplit" => contextSplit name arguments
  | "dd" => copyBlocks name arguments
  | "tee" => tee name arguments
  | "mkdir" => makeDirectories name arguments
  | "rmdir" => removeDirectories name arguments
  | "rm" => remove name arguments
  | "cp" => copy name arguments
  | "mv" => move name arguments
  | "ln" => link name arguments
  | "touch" => touch name arguments
  | "chmod" => changeModes name arguments
  | "mktemp" => makeTemporary name arguments
  | "ls" | "dir" => listFiles name arguments
  | "vdir" => listFiles name ("-lb" :: arguments)
  | "stat" => fileStatus name arguments
  | "readlink" => readLinks name arguments
  | "realpath" => realPaths name arguments
  | "basename" => baseNames name arguments
  | "dirname" => directoryNames name arguments
  | "find" => find command name arguments
  | "cmp" => compareBytes name arguments
  | "diff" => compareLines name arguments
  | "grep" => searchLines name arguments
  | "zgrep" => searchPacked [] name arguments
  | "zegrep" => searchPacked ["-E"] (System.place "zgrep") arguments
  | "zfgrep" => searchPacked ["-F"] (System.place "zgrep") arguments
  | "sed" => edit command name arguments
  | "awk" | "mawk" => workOnRecords command name arguments
  | "perl" => Extraction.run command name arguments
  | "echo" => echo name arguments
  | "printf" => printFormatted name arguments
  | "pwd" => tell name (encode (Builtin.pathOf (← get).here))
  | "test" | "[" => decideCondition name arguments
  | "printenv" => showEnvironment name arguments
  | "env" => runInEnvironment command name arguments
  | "xargs" => runWithInput command name arguments
  | "nohup" => runOn command name arguments
  | "nice" => runNicely command name arguments
  | "timeout" => runForTime command name arguments
  | "sleep" => sleep name arguments
  | "yes" => repeatText name arguments
  | "sh" | "dash" | "bash" => runShell program name arguments
  | "stdbuf" => runBuffered command name arguments
  | "setsid" => runInSession command name arguments
  | "ionice" => runIdly command name arguments
  | "taskset" => runOnProcessors command name arguments
  | "chrt" => runScheduled command name arguments
  | "setarch" => runOnMachine command true name arguments
  | "i386" | "linux32" | "linux64" | "x86_64" => runOnMachine command false name arguments
  | "flock" => runLocked command name arguments
  | "whoami" => tellOnly name "root" arguments
  | "arch" => tellOnly name "x86_64" arguments
  | "uname" => describeSystem name arguments
  | "id" => identify name arguments
  | "groups" => tellGroups name arguments
  | "logname" =>
    withOptions name noOptions true 1 arguments fun _ operands =>
      match operands with
      | [] => giveUp name "no login name" 1
      | extra :: _ => misuse name ("extra operand " ++ Quotation.quoted extra) 1
  | "tty" => tellTerminal name arguments
  | "iconv" => recode name arguments
  | "getopt" => arrange name arguments
  | "more" => showPages name arguments
  | "chown" | "chgrp" => changeOwners program name arguments
  | "nproc" => countProcessors name arguments
  | "which" => tellPlaces name arguments
  | _ => refuseOptions program name ((System.others.find? fun o => o.1 = program).elim 1 (·.2)) arguments

end Utility

end AddonAtlas.Shell
