import Woml.Projection.Proof.Status
import Woml.Engine.Proof.Loops
import Woml.Runtime.Proof.Correction
import Woml.Retention.Proof.Rate
import Woml.Database.Proof.Chains
import Woml.Remote.Proof.Once
import Woml.Lock.Proof.Scope
import Woml.Runtime.Proof.Settlement
import Woml.Runtime.Proof.Groups
import Woml.Artifact.Proof.Bytes
import Woml.Remote.Proof.Expiry
import Woml.Schedule.Proof.Occurrences
import Woml.Output.Proof.Process
import Woml.Policy.Proof.Binding
import Woml.Artifact.Proof.Source
import Woml.Store.Proof.Deliveries
import Woml.Compiler.Proof.Source
import Woml.Store.Proof.Encodings
