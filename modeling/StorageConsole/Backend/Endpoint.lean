/-!
Where the backend is reached and how its methods are called.
-/
namespace StorageConsole.Backend

structure Endpoint where
  server : String
  rpcPath : String
  /-- Stands in front of every method's name. -/
  space : String
  registerPath : String
  deriving DecidableEq, Repr, Inhabited

namespace Endpoint

def dropSlashes (cs : List Char) : List Char := (cs.reverse.dropWhile (· == '/')).reverse

def defaultRpcPath : String := "/rpc"

def defaultSpace : String := "DatameshRPC"

def defaultRegisterPath : String := "/register"

/-- The endpoint at a server's address, whose slashes at the end do not count. -/
def ofServer (server : String) : Endpoint :=
  ⟨String.ofList (dropSlashes server.toList), defaultRpcPath, defaultSpace, defaultRegisterPath⟩

def rpcUrl (e : Endpoint) : String := e.server ++ e.rpcPath

def registerUrl (e : Endpoint) : String := e.server ++ e.registerPath

def qualified (e : Endpoint) (method : String) : String := e.space ++ "." ++ method

end Endpoint

end StorageConsole.Backend
