import AddonAtlas.Bytes
import AddonAtlas.Text.Utf8

/-!
# What every system has

What names in a tree stand for, the places at which they stand, and why a system refuses an operation on
a path. Then the directories, devices and programs that stand outside of any working directory. A
program's file begins with the mark of a program, behind which is its name.
-/

/-! ## Entries and refusals -/

namespace AddonAtlas

/-- What a name of the tree stands for. -/
inductive Entry
  | file (content : Bytes) (executable : Bool)
  | link (target : String)
  | directory

/-- A place in the tree: the names on the way to it from the working directory. -/
abbrev Location := List String

/-- Why the system refuses an operation on a path. -/
inductive Errno
  | noEntry
  | argumentsTooLong
  | badFormat
  | notPermitted
  | exists_
  | notDirectory
  | isDirectory
  | nameTooLong
  | tooManyLinks
  | badDescriptor
  | invalid
  | noSpace
  | notEmpty
deriving DecidableEq, Repr

namespace Errno

def number : Errno → Nat
  | noEntry => 2
  | argumentsTooLong => 7
  | badFormat => 8
  | notPermitted => 13
  | exists_ => 17
  | notDirectory => 20
  | isDirectory => 21
  | nameTooLong => 36
  | tooManyLinks => 40
  | badDescriptor => 9
  | invalid => 22
  | noSpace => 28
  | notEmpty => 39

def description : Errno → String
  | noEntry => "No such file or directory"
  | argumentsTooLong => "Argument list too long"
  | badFormat => "Exec format error"
  | notPermitted => "Permission denied"
  | exists_ => "File exists"
  | notDirectory => "Not a directory"
  | isDirectory => "Is a directory"
  | nameTooLong => "File name too long"
  | tooManyLinks => "Too many levels of symbolic links"
  | badDescriptor => "Bad file descriptor"
  | invalid => "Invalid argument"
  | noSpace => "No space left on device"
  | notEmpty => "Directory not empty"

end Errno

end AddonAtlas

/-! ## Outside of the working directory -/

namespace AddonAtlas.System

/-- The place of everything outside of the working directory. -/
def root : Location := ["/"]

/-- The directory of temporary files. -/
def temporary : Location := root ++ ["tmp"]

/-- The name of the working directory, which is one of temporary files. -/
def workName : String := "tmpk3vq8x2d"

/-- The path of the working directory. -/
def workPath : String := "/tmp/" ++ workName

/-- Directories, by the names on the way to them. -/
def directories : List (List String) :=
  [["boot"], ["dev"], ["etc"], ["home"], ["media"], ["mnt"], ["opt"], ["proc"], ["root"], ["run"], ["srv"],
    ["sys"], ["tmp"], ["usr"], ["usr", "bin"], ["usr", "games"], ["usr", "include"], ["usr", "lib"],
    ["usr", "local"], ["usr", "local", "bin"], ["usr", "local", "lib"], ["usr", "local", "sbin"],
    ["usr", "sbin"], ["usr", "share"], ["var"], ["var", "lib"], ["var", "log"], ["var", "tmp"]]

/-- Directories that are found in `usr`. -/
def linked : List String := ["bin", "lib", "sbin"]

def devices : List String := ["full", "null", "random", "tty", "urandom", "zero"]

/-- The names of the programs in `/usr/bin`. -/
def programs : List String :=
  ["[", "arch", "awk", "b2sum", "base32", "base64", "basename", "basenc", "bash", "cat", "chgrp", "chmod",
    "chown", "chrt", "cksum", "cmp", "comm", "cp", "csplit", "cut", "dash", "date", "dd", "diff", "dir",
    "dirname", "echo", "env", "expand", "expr", "factor", "false", "find", "flock", "fmt", "fold", "getopt",
    "grep", "groups", "gunzip", "gzip", "head", "i386", "iconv", "id", "install", "ionice", "join", "link",
    "linux32", "linux64", "ln", "logname", "ls", "mawk", "md5sum", "mkdir", "mktemp", "more", "mv", "nice",
    "nl", "nohup", "nproc", "numfmt", "od", "paste", "perl", "pr", "printenv", "printf", "pwd", "readlink",
    "realpath", "rev", "rm", "rmdir", "sed", "seq", "setarch", "setsid", "sh", "sha1sum", "sha224sum",
    "sha256sum", "sha384sum", "sha512sum", "shuf", "sleep", "sort", "split", "stat", "stdbuf", "sum", "sync",
    "tac", "tail", "taskset", "tee", "test", "timeout", "touch", "tr", "true", "truncate", "tsort", "tty",
    "uname", "uncompress", "unexpand", "uniq", "unlink", "vdir", "wc", "which", "whoami", "x86_64", "xargs",
    "yes", "zcat", "zegrep", "zfgrep", "zgrep"]

/-- Programs of which no more is known than that they refuse options, and the status with which they do. -/
def others : List (String × Nat) :=
  [("apt", 100), ("apt-cache", 100), ("apt-config", 100), ("apt-get", 100), ("apt-mark", 100),
    ("captoinfo", 1), ("chcon", 1), ("choom", 1), ("chroot", 125), ("clear", 1), ("df", 1), ("diff3", 2),
    ("dircolors", 1), ("dmesg", 1), ("dpkg", 2), ("dpkg-deb", 2), ("dpkg-divert", 2), ("dpkg-query", 2),
    ("dpkg-split", 2), ("dpkg-statoverride", 2), ("dpkg-trigger", 2), ("du", 1), ("fallocate", 1),
    ("fincore", 1), ("findmnt", 1), ("getconf", 2), ("getent", 64), ("hardlink", 1), ("hostid", 1),
    ("hostname", 255), ("infocmp", 1), ("ipcmk", 1), ("ipcrm", 1), ("ipcs", 1), ("ischroot", 1),
    ("killall5", 1), ("last", 1), ("ldd", 1), ("locale", 64), ("logger", 1), ("login", 1), ("lsblk", 1),
    ("lscpu", 1), ("lsipc", 1), ("lsirq", 1), ("lslocks", 1), ("lslogins", 1), ("lsmem", 1), ("lsns", 1),
    ("mcookie", 1), ("mesg", 1), ("mkfifo", 1), ("mknod", 1), ("mount", 1), ("mountpoint", 1), ("namei", 1),
    ("nologin", 1), ("nsenter", 1), ("partx", 1), ("pathchk", 1), ("pidof", 1), ("pinky", 1), ("prlimit", 1),
    ("ptx", 1), ("renice", 1), ("run-parts", 1), ("runcon", 125), ("runuser", 1), ("savelog", 1),
    ("script", 1), ("scriptreplay", 1), ("sdiff", 2), ("setpriv", 1), ("shred", 1), ("stty", 1), ("su", 1),
    ("swapon", 1), ("tabs", 1), ("tar", 64), ("tempfile", 1), ("tic", 1), ("toe", 1), ("tput", 2),
    ("tset", 1), ("uclampset", 1), ("umount", 1), ("unshare", 1), ("update-alternatives", 2), ("users", 1),
    ("wall", 1), ("who", 1), ("zforce", 1), ("zmore", 1), ("znew", 1)]

/-- The path of a program in `/usr/bin`. -/
def place (name : String) : String :=
  "/usr/bin/" ++ name

/-- The programs that go by their paths, whatever they are called by. -/
def withPaths : List String := ["which", "zegrep", "zfgrep", "zgrep"]

/-- What a program's file begins with. -/
def programMark : Bytes :=
  Bytes.ofList [127, 69, 76, 70, 0]

/-- The file of a program. -/
def program (name : String) : Entry :=
  .file (Bytes.concat [programMark, Bytes.ofString name]) true

/-- The program whose file has a content. -/
def program? (content : Bytes) : Option String :=
  if (content.take programMark.size).toList = programMark.toList then
    some (content.drop programMark.size).decode
  else none

/-- The text of a program that calls another one. -/
def caller (text : String) : Entry :=
  .file (Bytes.ofString ("#!/bin/sh\n" ++ text ++ " \"$@\"\n")) true

/-- What stands at a place outside of the working directory. -/
def find? (place : Location) : Option Entry :=
  match place with
  | ["/", "dev", name] => if devices.contains name then some (.file Bytes.empty false) else none
  | ["/", "usr", "bin", "egrep"] => some (caller "cmd=$\x7b0##*/\x7d\nexec grep -E")
  | ["/", "usr", "bin", "fgrep"] => some (caller "cmd=$\x7b0##*/\x7d\nexec grep -F")
  | ["/", "usr", "bin", "rgrep"] => some (caller "\nexec grep -r")
  | ["/", "usr", "bin", name] =>
    if programs.contains name || (others.any fun o => o.1 = name) then some (program name) else none
  | "/" :: names =>
    if directories.contains names then some .directory
    else
      match names with
      | [name] => if linked.contains name then some (.link ("usr/" ++ name)) else none
      | _ => none
  | _ => none

end AddonAtlas.System
