import Mathlib.Data.List.Basic

/-!
# Mails

`Send` writes the subject, in which there is a name that a user chose, into the header of the mail.
-/

namespace Outpost.Mailer

structure Config where
  (fromAddress fromName : String)

inductive Mail where
  | deviceConfig (deviceName : String)
  | enrollmentInvite (instanceName : String)
  | welcome (instanceName : String)

def Mail.name : Mail → String
  | .deviceConfig name => name
  | .enrollmentInvite name => name
  | .welcome name => name

def Mail.subject : Mail → String
  | .deviceConfig deviceName => "WireGuard configuration for " ++ deviceName ++ " — Outpost VPN"
  | .enrollmentInvite instanceName => "Device enrollment invitation — " ++ instanceName
  | .welcome instanceName => "Welcome to " ++ instanceName

def Config.sender (cfg : Config) : String :=
  if cfg.fromName ≠ "" then cfg.fromName ++ " <" ++ cfg.fromAddress ++ ">" else cfg.fromAddress

def headers (cfg : Config) (recipient subject : String) : List String :=
  ["From: " ++ cfg.sender, "To: " ++ recipient, "Subject: " ++ subject, "MIME-Version: 1.0",
    "Content-Type: text/html; charset=UTF-8"]

/-- The message that `Send` builds. -/
def message (cfg : Config) (recipient subject htmlBody : String) : String :=
  "\r\n".intercalate (headers cfg recipient subject) ++ "\r\n\r\n" ++ htmlBody

end Outpost.Mailer
