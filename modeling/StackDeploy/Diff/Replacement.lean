/-
# Changes that replace a resource

Some properties make the identity of a physical resource, so changing them makes the provider create
a new one and delete the old. The table lists them for common kinds; a kind that is not listed is
taken to be updated in place. A change of the kind itself always replaces.
-/

import StackDeploy.Diff.Basic

namespace StackDeploy

open Json (Value Members)

/-- The properties that make the identity of a resource, for each listed kind. -/
def identityTable : List (String × List String) :=
  [("AWS::S3::Bucket", ["BucketName"]),
   ("AWS::EC2::Instance",
      ["ImageId", "InstanceType", "KeyName", "AvailabilityZone", "SubnetId"]),
   ("AWS::DynamoDB::Table", ["TableName", "KeySchema", "LocalSecondaryIndexes"]),
   ("AWS::RDS::DBInstance", ["DBInstanceIdentifier", "Engine", "DBName", "StorageEncrypted"]),
   ("AWS::Lambda::Function", ["FunctionName", "PackageType"]),
   ("AWS::SQS::Queue", ["QueueName", "FifoQueue"]),
   ("AWS::SNS::Topic", ["TopicName", "FifoTopic"]),
   ("AWS::ECS::Cluster", ["ClusterName"]),
   ("AWS::ECR::Repository", ["RepositoryName"]),
   ("AWS::ElastiCache::CacheCluster", ["ClusterName", "Engine", "CacheSubnetGroupName"]),
   ("AWS::IAM::Role", ["RoleName", "Path"]),
   ("AWS::EC2::SecurityGroup", ["GroupName", "GroupDescription", "VpcId"])]

/-- The properties that make the identity of a kind, if it is listed. -/
def identityProperties (type : String) : Option (List String) :=
  (identityTable.find? fun row => row.1 == type).map Prod.snd

/-- Why a resource is replaced. -/
inductive ReplacementReason where
  | typeChanged (old new : String)
  | propertyChanged (property : String)
deriving DecidableEq

/-- A modified resource that the provider has to replace. -/
structure Replacement where
  id : String
  reason : ReplacementReason
deriving DecidableEq

/-- The wording of a replacement. -/
def Replacement.message (r : Replacement) : String :=
  match r.reason with
  | .typeChanged old new => r.id ++ ": type " ++ old ++ " -> " ++ new
  | .propertyChanged property => r.id ++ ": " ++ property ++ " changed"

/-- Why going from one definition to another replaces the resource; empty if it does not. -/
def Resource.replacementReasons (old new : Resource) : List ReplacementReason :=
  if old.type ≠ new.type then [.typeChanged old.type new.type]
  else
    ((identityProperties new.type).getD []).filterMap fun property =>
      if optionsSame Value.same (Members.get? property old.properties)
          (Members.get? property new.properties) then none
      else some (.propertyChanged property)

namespace TemplateDiff

/-- The replacements among the modified resources, in the order of their ids. -/
def replacements (d : TemplateDiff) (old new : Template) : List Replacement :=
  d.modified.names.flatMap fun id =>
    match old.resources.get? id, new.resources.get? id with
    | some before, some after => (before.replacementReasons after).map fun reason => ⟨id, reason⟩
    | _, _ => []

/-- Whether the change deletes or replaces a resource. -/
def requiresReplacement (d : TemplateDiff) (old new : Template) : Bool :=
  !d.deleted.isEmpty || !(d.replacements old new).isEmpty

end TemplateDiff

end StackDeploy
