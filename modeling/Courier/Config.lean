/-
The configuration of the bundled transport. Durations are milliseconds, and a
timeout of zero means none.
-/
namespace Courier

structure Config where
  timeout : Nat
  connectTimeout : Nat
  poolIdlePerHost : Nat
  poolIdleTimeout : Nat
  maxRedirects : Nat
  userAgent : String
  deriving DecidableEq

/-- What holds unless something else is configured. -/
def Config.default : Config where
  timeout := 30000
  connectTimeout := 10000
  poolIdlePerHost := 32
  poolIdleTimeout := 90000
  maxRedirects := 5
  userAgent := "volley/0.1.0"

end Courier
