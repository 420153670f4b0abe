import Tensora.Lib.ProgramLogic
import Tensora.Lib.CheckedLoop
import Tensora.Lib.ByteCodec
import Tensora.Lib.PostOrder
import Tensora.Lib.LogSumExp
import Tensora.Core.Status
import Tensora.Tensor.Scalar
import Tensora.Tensor.Shape
import Tensora.Tensor.ShapeLimits
import Tensora.Tensor.Memory
import Tensora.Autograd.Record
import Tensora.Backends.CpuBackend
import Tensora.Training.Operations
import Tensora.Autograd.Backward
import Tensora.Runtime.HandleRegistry
import Tensora.Runtime.Runtime
import Tensora.Training.Module
import Tensora.Training.Optimizer
import Tensora.Training.Checkpoint
import Tensora.Training.StateTransaction
import Tensora.Training.TorchAssignments
import Tensora.Training.LibTorch
import Tensora.Training.TorchIdentities
import Tensora.Inference.Export
import Tensora.Inference.ProviderPolicy
import Tensora.Api.Calls
import Tensora.Training.TorchBridge
import Tensora.Training.GradientPaths
import Tensora.Training.OperationPaths
import Tensora.Training.SampleTorch
import Tensora.Runtime.RegistryHistory
import Tensora.Runtime.Insertion
import Tensora.Inference.SessionRun
import Tensora.Tensor.Layout
import Tensora.Tensor.MemoryLogic
import Tensora.Tensor.HeapInvariant
import Tensora.Tensor.HeapSteps
import Tensora.Tensor.HeapFrame
import Tensora.Autograd.ForwardValues
import Tensora.Autograd.RecordSpecs
import Tensora.Autograd.Gradients
import Tensora.Autograd.Tape
import Tensora.Autograd.BackwardSteps
import Tensora.Autograd.ApplySpecs
import Tensora.Autograd.CrossEntropyDerivative
import Tensora.Lib.Activations
import Tensora.Autograd.ActivationDerivatives
import Tensora.Autograd.KernelRanges
import Tensora.Autograd.BackwardSpecs
import Tensora.Training.ForwardSpecs
import Tensora.Training.LinearSpecs
import Tensora.Autograd.Evolution
import Tensora.Training.MutatorSpecs
import Tensora.Training.CreationSpecs
import Tensora.Inference.ExportSpecs
import Tensora.Autograd.Links
import Tensora.Api.Invariant
import Tensora.Training.AssignMany
import Tensora.Training.CheckpointSpecs
import Tensora.Api.CallSpecs
import Tensora.Training.OptimizerSpecs
import Tensora.Training.StepSpecs
import Tensora.Training.StepEffects
import Tensora.Training.CreateSpecs
import Tensora.Training.ReferenceAdam
import Tensora.Training.SaveSpecs
import Tensora.Training.CheckpointImages
import Tensora.Api.MutatingCalls
import Tensora.Api.Runs
import Tensora.Api.Isolation
import Tensora.Api.Sample
import Tensora.Training.Connectivity
import Tensora.Api.Assignment
import Tensora.Api.BackwardCalls
import Tensora.Tensor.Formed
import Tensora.Tensor.Oblivious
import Tensora.Autograd.FormedGraph
import Tensora.Api.ObliviousCalls
import Tensora.Api.SavedVersions
import Tensora.Api.Checkpoints
import Tensora.Api.StepAtomicity
import Tensora.Lib.Lockstep
import Tensora.Runtime.SideBySide
import Tensora.Api.SideBySideCalls
import Tensora.Api.CreationCalls
import Tensora.Api.ParameterLists
import Tensora.Api.OptimizerCalls
import Tensora.Api.TwoOptimizers
import Tensora.Api.AdamRuns
import Tensora.Training.AdamOperands
import Tensora.Api.OptimizerTables
import Tensora.Api.AdamDefined
import Tensora.Api.Freezing
import Tensora.Api.Identities
import Tensora.Api.StorageLifetimes
import Tensora.Api.AssignmentBackends
import Tensora.Api.CrossEntropyCalls
import Tensora.Data.DataLoader
import Tensora.Tensor.HandleAdoption
import Tensora.Nn.ModuleTree
import Tensora.Nn.Forward
import Tensora.Nn.DeviceMoves
import Tensora.Nn.LinearMove
import Tensora.Nn.OwnershipRuns
import Tensora.Nn.StateDictLaws
import Tensora.Api.Constructors
import Tensora.Api.ConstructorCalls
import Tensora.Api.Exports
import Tensora.Api.ForwardCalls
import Tensora.Api.LayoutTransparency
import Tensora.Api.LinearLayers
import Tensora.Api.OwnershipGraph
import Tensora.Api.ViewSequences
import Tensora.Api.ViewAliasing
import Tensora.Api.PartialBackward
import Tensora.Api.ReverseMode
import Tensora.Dart.IsolateRuns
import Tensora.Lib.Coupling
import Tensora.Lib.Reordering
import Tensora.Tensor.Unordered
import Tensora.Runtime.Shifted
import Tensora.Api.ShiftedCalls
import Tensora.Dart.ShiftedPrograms
import Tensora.Training.GroupedSteps
import Tensora.Api.GroupedOptimizers
import Tensora.Optim.Optimizer
import Tensora.Optim.Loops
import Tensora.Optim.Driving
import Tensora.Optim.Creation
import Tensora.Optim.GroupCreation
import Tensora.Optim.Constructions
import Tensora.Optim.Cleanup
import Tensora.Optim.Partitions
import Tensora.Optim.Trajectories
