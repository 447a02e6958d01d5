import Mathlib.Data.List.Basic

/-!
# Errors

The Go errors that the operator creates, wraps and inspects. `GoError.is` is
`errors.Is`, `GoError.error` is the text that ends up in status conditions. An
error of the Kubernetes API carries the reason by which `apierrors` classifies
it; its message is the server's.
-/

namespace TopologyOperator

inductive StatusReason where
  | notFound
  | conflict
  | alreadyExists
  | other
  deriving DecidableEq

structure ApiError where
  reason : StatusReason
  message : String
  deriving DecidableEq

/-- An error of the broker client: `rabbithole.ErrorResponse`, or one of the
transport. -/
inductive BrokerError where
  | errorResponse (statusCode : Int) (message reason : String)
  | other (message : String)
  deriving DecidableEq

inductive GoError where
  | errNoSuchRabbitmqCluster
  | errResourceNotAllowed
  | errNoServiceReferenceSet
  | errClusterScaledToZero
  /-- `ErrNotFound` of the controllers: the broker answered 404 to a deletion. -/
  | errNotFound
  | api (err : ApiError)
  | broker (err : BrokerError)
  | rabbitmqAPIError (statusCode : Int) (body : String)
  | text (message : String)
  /-- `fmt.Errorf` with one `%w` verb: the text before it, the wrapped error and
  the text after it. -/
  | wrapped (before : String) (inner : GoError) (after : String)
  deriving DecidableEq

namespace GoError

/-- The `Error` method. -/
def error : GoError → String
  | .errNoSuchRabbitmqCluster => "RabbitmqCluster object does not exist"
  | .errResourceNotAllowed =>
      "resource is not allowed to reference defined cluster reference. Check the namespace of " ++
      "the resource is allowed as part of the cluster's " ++
      "`rabbitmq.com/topology-allowed-namespaces` annotation"
  | .errNoServiceReferenceSet => "RabbitmqCluster has no ServiceReference set in status.defaultUser"
  | .errClusterScaledToZero => "RabbitmqCluster is scaled to zero replicas"
  | .errNotFound => "not found"
  | .api err => err.message
  | .broker (.errorResponse statusCode message reason) =>
      "Error " ++ toString statusCode ++ " (" ++ message ++ "): " ++ reason
  | .broker (.other message) => message
  | .rabbitmqAPIError statusCode _ =>
      "RabbitMQ management API request failed with status code " ++ toString statusCode
  | .text message => message
  | .wrapped before inner after => before ++ inner.error ++ after

/-- `errors.Is`, for the sentinel errors and `rabbithole404` as targets. -/
def is : GoError → GoError → Bool
  | .wrapped _ inner _, target => inner.is target
  | err, target => decide (err = target)

/-- The reason of the API error in the chain of wrapped errors, if any. -/
def reason : GoError → Option StatusReason
  | .api err => some err.reason
  | .wrapped _ inner _ => inner.reason
  | _ => none

/-- `apierrors.IsNotFound` -/
def isNotFound (err : GoError) : Bool := decide (err.reason = some .notFound)

/-- `apierrors.IsConflict` -/
def isConflict (err : GoError) : Bool := decide (err.reason = some .conflict)

/-- The error that `rabbithole` returns in some cases for a 404 response. -/
def rabbithole404 : GoError := .broker (.errorResponse 404 "Object Not Found" "Not Found")

/-- `client.IgnoreNotFound` -/
def ignoreNotFound (err : GoError) : Option GoError :=
  if err.isNotFound then none else some err

end GoError

/-- `keyMissingErr` -/
def keyMissingErr (key : String) : GoError :=
  .text ("failed to retrieve " ++ key ++ ": key " ++ key ++ " missing from credentials")

end TopologyOperator
