import GrafanaInstall.Http.Uri
import GrafanaInstall.Text.Number
import GrafanaInstall.Text.Quoted

/-!
# Connections to a cluster

How the operator finds out where its cluster is: from configuration files, or else from what a
cluster tells the programs that run in it. Here is how that fails on a machine that is neither
configured nor part of a cluster.
-/

namespace GrafanaInstall.Connection

open Text (quoted NumberError)

abbrev Environment := String → Option String

/-! ## Files -/

inductive FileError where
  | missing
  | notDirectory
  | isDirectory
  | nameTooLong
  deriving DecidableEq

def FileError.message : FileError → String
  | .missing => "No such file or directory (os error 2)"
  | .notDirectory => "Not a directory (os error 20)"
  | .isDirectory => "Is a directory (os error 21)"
  | .nameTooLong => "File name too long (os error 36)"

/-- Where a path may lead on a machine with nothing on it but what every machine has. -/
inductive Place where
  | root
  | top (name : String)
  /-- The directory that a relative path starts from, or one above it. -/
  | current
  | nothing
  deriving DecidableEq

def topDirectories : List String :=
  ["bin", "boot", "dev", "etc", "home", "lib", "media", "mnt", "opt", "proc", "root", "run", "sbin",
    "srv", "sys", "tmp", "usr", "var"]

def longestName : Nat := 255

def longestPath : Nat := 4095

def Place.child (place : Place) (name : String) : Except FileError Place :=
  if place = .nothing then .error .notDirectory
  else if name = "" ∨ name = "." then .ok place
  else if name = ".." then .ok (if place = .current then .current else .root)
  else if longestName < name.utf8ByteSize then .error .nameTooLong
  else if place = .root ∧ name ∈ topDirectories then .ok (.top name)
  else if place = .top "dev" ∧ name = "null" then .ok .nothing
  else .error .missing

/-- Reads a file, which is empty where that works at all. -/
def readFile (path : String) : Except FileError Unit := do
  if longestPath < path.utf8ByteSize then throw .nameTooLong
  let (start, names) : Place × List String := match path.splitOn "/" with
    | "" :: names => (.root, names)
    | names => (.current, names)
  if (← names.foldlM Place.child start) = .nothing then return ()
  else throw .isDirectory

/-! ## Configuration files -/

inductive ConfigError where
  | unreadable (path : String) (cause : FileError)
  /-- The files do not name a cluster. -/
  | noContext
  deriving DecidableEq

def ConfigError.message : ConfigError → String
  | .unreadable path cause =>
    "failed to read kubeconfig from '" ++ quoted path ++ "': " ++ cause.message
  | .noContext => "failed to determine current context"

/-- The file of a user, in the directory that is theirs. -/
def homeConfig (home : Option String) : String :=
  let home := (home.filter (· ≠ "")).getD "/root"
  home ++ (if home.endsWith "/" then "" else "/") ++ ".kube/config"

/-- The files that tell how to reach the cluster. -/
def configPaths (env : Environment) : List String :=
  match (((env "KUBECONFIG").getD "").splitOn ":").filter (· ≠ "") with
  | [] => [homeConfig (env "HOME")]
  | paths => paths

/-- The first file that cannot be read ends the search. -/
def configError : List String → ConfigError
  | [] => .noContext
  | path :: rest =>
    match readFile path with
    | .ok _ => configError rest
    | .error cause => .unreadable path cause

/-! ## Inside a cluster -/

inductive ClusterError where
  | variableMissing
  | badPort (cause : NumberError)
  | badAddress (cause : Http.Uri.Fault)
  | noNamespace (cause : FileError)
  deriving DecidableEq

def ClusterError.message : ClusterError → String
  | .variableMissing =>
    "failed to read an incluster environment variable: environment variable not found"
  | .badPort cause => "failed to parse cluster port: " ++ cause.message
  | .badAddress cause => "failed to parse cluster url: " ++ cause.message
  | .noNamespace cause => "failed to read the default namespace: " ++ cause.message

/-- One part of an IPv4 address, without leading zeros. -/
def isByte (text : String) : Bool :=
  text.length ≤ 3 && text.toList.all Char.isDigit && (text = "0" || !text.startsWith "0") &&
    (Text.readNumber 256 text).isOk

def isIpv4 (text : String) : Bool :=
  let parts := text.splitOn "."
  parts.length = 4 && parts.all isByte

def isHexDigit (c : Char) : Bool :=
  c.isDigit || ('a' ≤ c && c ≤ 'f') || ('A' ≤ c && c ≤ 'F')

def isGroup (text : String) : Bool :=
  1 ≤ text.length && text.length ≤ 4 && text.toList.all isHexDigit

/-- How many groups some parts of an IPv6 address stand for. An IPv4 address may be the last. -/
def groupCount? : List String → Option Nat
  | [] => some 0
  | [part] => if isIpv4 part then some 2 else if isGroup part then some 1 else none
  | part :: rest => if isGroup part then (groupCount? rest).map (· + 1) else none

def groups (text : String) : List String :=
  if text = "" then [] else text.splitOn ":"

/-- An IPv6 address has eight groups, some of which a double colon may leave out. -/
def isIpv6 (text : String) : Bool :=
  match text.splitOn "::" with
  | [whole] => groupCount? (groups whole) = some 8
  | first :: rest =>
    match groupCount? (groups ("::".intercalate rest)) with
    | some count => (groups first).all isGroup && (groups first).length + count ≤ 7
    | none => false
  | [] => false

/-- The address of a server. The standard port is left out. -/
def address (host : String) (port : Nat) : String :=
  (if isIpv6 host then "[" ++ host ++ "]" else host) ++
    if port = 443 then "" else ":" ++ toString port

def clusterError (env : Environment) : ClusterError :=
  match env "KUBERNETES_SERVICE_HOST", env "KUBERNETES_SERVICE_PORT" with
  | some host, some port =>
    match Text.readNumber UInt16.size port with
    | .error cause => .badPort cause
    | .ok port =>
      match Http.Uri.checkAbsolute "https://" (address host port) with
      | .error cause => .badAddress cause
      | .ok _ => .noNamespace .missing
  | _, _ => .variableMissing

/-! ## Both -/

def failure (env : Environment) : String :=
  "Failed to create Kubernetes client: Failed to infer configuration: failed to infer config: " ++
    "in-cluster: (" ++ (clusterError env).message ++ "), kubeconfig: (" ++
    (configError (configPaths env)).message ++ ")"

end GrafanaInstall.Connection
