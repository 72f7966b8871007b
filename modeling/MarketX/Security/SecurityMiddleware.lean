/-
Module: MarketX.Security.SecurityMiddleware
Purpose: The middleware in front of every route
  (`common/middleware/security.middleware.ts`): the checks of address and
  size, the headers of the response, and the sanitized request.
Trusted boundary: human-reviewed model of the source; regular expressions are
  a parameter
Main exports: SecurityMiddleware, SecurityMiddleware.checkIPRestrictions, Passage
-/
import MarketX.Security.Requests

namespace MarketX.Security

open Numerals

/-- What the environment configures.  `regExpTest` tells whether a regular
expression, given as a text, matches another text; it throws where the text is
no regular expression. -/
structure SecurityMiddleware where
  whitelist : List String := []
  blockedIPs : List String := []
  maxRequestSize : String := "10mb"
  maxJsonSize : String := "10mb"
  maxUrlEncodedSize : String := "10mb"
  maxFileSize : String := "50mb"
  corsOrigin : Option String := none
  regExpTest : String → String → Except HttpException Bool

namespace SecurityMiddleware

def securityHeaders : List (String × String) := [ ("X-Content-Type-Options", "nosniff"),
    ("X-Frame-Options", "DENY"), ("X-XSS-Protection", "1; mode=block"),
    ("Strict-Transport-Security", "max-age=31536000; includeSubDomains"),
    ("Content-Security-Policy", "default-src 'self'"),
    ("Referrer-Policy", "strict-origin-when-cross-origin"),
    ("Permissions-Policy", "geolocation=(), microphone=(), camera=()") ]

def trim (text : String) : String := String.ofList (trimmed text.toList)

def getClientIP (request : Request) : String :=
  let clientIP :=
    match request.headers "x-forwarded-for" with
    | some (.text forwarded) => trim (firstItem forwarded)
    | some (.list (forwarded :: _)) => forwarded
    | _ =>
      match request.headers "x-real-ip" with
      | some (.text address) => address
      | _ => request.remoteAddress.getD "unknown"
  trim clientIP

variable (security : SecurityMiddleware)

/-- A pattern may contain `*`. -/
def ipMatches (ip pattern : String) : Except HttpException Bool :=
  if pattern = "*" then .ok true
  else if pattern = ip then .ok true
  else
    let patternRegex := pattern.toList.flatMap fun c =>
      if c = '.' then ['\\', '.'] else if c = '*' then ['.', '*'] else [c]
    security.regExpTest (String.ofList (['^'] ++ patternRegex ++ ['$'])) ip

/-- One of the patterns matches; those behind it are not looked at. -/
def someMatches (ip : String) : List String → Except HttpException Bool
  | [] => .ok false
  | pattern :: patterns => do
      if ← security.ipMatches ip pattern then pure true
      else someMatches ip patterns

def checkIPRestrictions (request : Request) : Except HttpException Unit := do
  let clientIP := getClientIP request
  if security.whitelist.length > 0 then
    let isWhitelisted ← security.someMatches clientIP security.whitelist
    if !isWhitelisted then
      throw (.badRequest s!"Access denied. Your IP {clientIP} is not whitelisted.")
  if clientIP ∈ security.blockedIPs then
    throw (.badRequest (s!"Access denied. Your IP {clientIP} has been blocked due to " ++
        "suspicious activity."))

/-- A text like `10mb` in bytes. -/
def parseSize (size : String) : ℕ :=
  let digits := size.toList.takeWhile Char.isDigit
  let unit := (size.toList.dropWhile Char.isDigit).map Char.toLower
  let amount := valueOf digits
  if digits = [] then 10 * 1024 * 1024
  else if unit = [] ∨ unit = ['b'] then amount
  else if unit = ['k', 'b'] then amount * 1024
  else if unit = ['m', 'b'] then amount * (1024 * 1024)
  else if unit = ['g', 'b'] then amount * (1024 * 1024 * 1024)
  else 10 * 1024 * 1024

/-- `request.headers[header]?.includes(part)`. -/
def headerIncludes (request : Request) (header part : String) : Bool :=
  match request.headers header with
  | some (.text value) => includes value part
  | some (.list values) => part ∈ values
  | none => false

def validateRequestSize (request : Request) : Except HttpException Unit := do
  let contentLength : Option ℤ :=
    match request.headers "content-length" with
    | some (.text value) => parseInt? (if value = "" then "0" else value).toList
    | _ => some 0
  let maxJsonBytes := parseSize security.maxJsonSize
  let maxUrlEncodedBytes := parseSize security.maxUrlEncodedSize
  let maxFileBytes := parseSize security.maxFileSize
  let maxAllowed :=
    if headerIncludes request "content-type"
        "application/x-www-form-urlencoded" then maxUrlEncodedBytes
    else if headerIncludes request "content-type" "multipart/form-data" then
      maxFileBytes
    else maxJsonBytes
  -- a comparison with `NaN` is false
  if contentLength.any (· > (maxAllowed : ℤ)) then
    throw (.badRequest s!"Request payload too large. Max size: {security.maxRequestSize}")

/-- The headers of the response. -/
def applySecurityHeaders : List (String × String) := securityHeaders ++
    match nonEmpty security.corsOrigin with
    | some origin =>
      [ ("Access-Control-Allow-Origin", origin), ("Access-Control-Allow-Methods",
          "GET, POST, PUT, PATCH, DELETE, OPTIONS"), ("Access-Control-Allow-Headers",
          "Content-Type, Authorization, X-Requested-With"),
        ("Access-Control-Allow-Credentials", "true"), ("Access-Control-Max-Age", "3600") ]
    | none => []

def sensitiveHeaders : List String := ["x-api-key", "authorization", "cookie", "x-forwarded-for"]

def redacted : Header := .text "***REDACTED***"

/-- One turn of the loop over the sensitive headers. -/
def redact (request : Request) (header : String) : Request :=
  if (request.headers header).any Header.truthy then
    { request with
      headers := Function.update request.headers header (some redacted) }
  else request

def sanitizeRequest (request : Request) : Except HttpException Request := do
  let request := sensitiveHeaders.foldl redact request
  if request.queryIsList ∨ request.body = some .list then
    throw (.badRequest "Invalid request format")
  pure request

/-- What becomes of a request: it goes on, with headers for the response; or
it is answered with 400; or the error handler gets it. -/
inductive Passage where
  | passed (request : Request) (responseHeaders : List (String × String))
  | refused (message : String)
  | failed (error : HttpException)

/-- The `try` block without the log. -/
def sanitized (request : Request) : Except HttpException Request := do
  security.checkIPRestrictions request
  security.validateRequestSize request
  sanitizeRequest request

def use (request : Request) : Passage :=
  match security.sanitized request with
  | .ok request => .passed request security.applySecurityHeaders
  | .error (.badRequest message) => .refused message
  | .error error => .failed error

end SecurityMiddleware

end MarketX.Security
