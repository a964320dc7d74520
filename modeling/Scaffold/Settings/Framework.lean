import Scaffold.Registry
import Scaffold.Text.Letters

/-!
# Server frameworks

The frameworks that route handlers can be generated for.
-/

namespace Scaffold

/-- A framework for route handlers. -/
inductive Framework where
  /-- Route modules of the app router, one file for each path. -/
  | nextjs
  /-- One router module. -/
  | express
  /-- One plugin module. -/
  | fastify
  /-- A controller, a service and a module. -/
  | nestjs
  deriving DecidableEq, Repr

instance : Registry Framework where
  all := [.nextjs, .express, .fastify, .nestjs]
  name
    | .nextjs => "nextjs"
    | .express => "express"
    | .fastify => "fastify"
    | .nestjs => "nestjs"

namespace Framework

/-- Where handlers import the client from unless another path is configured. -/
def clientImportPath : Framework → String
  | nextjs => "@/lib/scheduling-client"
  | express | fastify | nestjs => "./scheduling-client"

/-- Reads a framework in any letter case. -/
def read? (s : String) : Option Framework := Registry.find? (Text.lower s)

end Framework

end Scaffold
